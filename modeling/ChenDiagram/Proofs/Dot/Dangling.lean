import ChenDiagram.Compile
import ChenDiagram.Proofs.Dot.Identifiers
import ChenDiagram.Proofs.Source.Composition

/-! Names that lead nowhere. Connectors run between names that lines refer to and identifiers that
were made up. What was made up has its node, right before the connector that ties it to its parent;
so only a name that no line declares can be left without one. -/

namespace ChenDiagram

/-! ## References and declared names -/

namespace Declaration

/-- The names that a declaration refers to. -/
def references : Declaration → List String
  | .color .. | .entity _ | .relationship _ => []
  | .attribute a => [a.owner]
  | .composite c => [c.owner]
  | .generalization i => i.supertype :: i.subtypes
  | .edge e => e.relationship.toList ++ [e.tail.entity, e.head.entity]

/-- The name that a declaration makes known. -/
def declares? : Declaration → Option String
  | .entity e => some e.name
  | .relationship r => some r.name
  | _ => none

end Declaration

namespace Diagram
variable {d : Diagram} {xs : List Declaration} {name : String}

/-- The names that a diagram refers to. -/
def references (d : Diagram) : List String :=
  d.attributes.flatMap (fun a => (Declaration.attribute a).references) ++
  d.composites.flatMap (fun c => (Declaration.composite c).references) ++
  d.generalizations.flatMap (fun i => (Declaration.generalization i).references) ++
  d.edges.flatMap fun e => (Declaration.edge e).references

/-- The names that a diagram knows. -/
def names (d : Diagram) : List String := d.entities.keys ++ d.relationships.keys

/-- What each declaration can only add to holds in the end if it held before or one of them makes
it so. -/
theorem addAll_iff {P : Diagram → Prop} {Q : Declaration → Prop}
    (h : ∀ d x, P (d.add x) ↔ P d ∨ Q x) : P (d.addAll xs) ↔ P d ∨ ∃ x ∈ xs, Q x := by
  induction xs generalizing d with
  | nil => simp [addAll]
  | cons x xs ih =>
    show P ((d.add x).addAll xs) ↔ _
    rw [ih, h, or_assoc]
    simp only [List.mem_cons, exists_eq_or_imp]

theorem mem_references_add (d : Diagram) (x : Declaration) :
    name ∈ (d.add x).references ↔ name ∈ d.references ∨ name ∈ x.references := by
  cases x with
  | color | entity | relationship => exact (or_iff_left List.not_mem_nil).symm
  | _ =>
    simp only [references, add, List.flatMap_append, List.flatMap_singleton, List.mem_append,
      or_assoc, or_comm, or_left_comm]

theorem mem_names_add (d : Diagram) (x : Declaration) :
    name ∈ (d.add x).names ↔ name ∈ d.names ∨ x.declares? = some name := by
  cases x with
  | entity | relationship =>
    simp only [names, add, List.mem_append, Table.mem_keys_insert, Declaration.declares?,
      Option.some.injEq, eq_comm, or_assoc, or_comm, or_left_comm]
  | _ => exact (or_iff_left nofun).symm

end Diagram

namespace Source
variable {name : String}

theorem mem_references_parse (g : EdgeGrammar) (text : String) :
    name ∈ (parse g text).diagram.references ↔ ∃ x ∈ accepted g text, name ∈ x.references := by
  rw [diagram_parse, Diagram.ofDeclarations,
    Diagram.addAll_iff (P := (name ∈ ·.references)) Diagram.mem_references_add]
  exact or_iff_right List.not_mem_nil

theorem mem_names_parse (g : EdgeGrammar) (text : String) :
    name ∈ (parse g text).diagram.names ↔ ∃ x ∈ accepted g text, x.declares? = some name := by
  rw [diagram_parse, Diagram.ofDeclarations,
    Diagram.addAll_iff (P := (name ∈ ·.names)) Diagram.mem_names_add]
  exact or_iff_right List.not_mem_nil

end Source

namespace Dot
open Source

/-! ## Ends of connectors -/

def Statement.endpoints : Statement → List String
  | .node .. => []
  | .connector tail head _ => [tail, head]

/-- A connector starts or ends there, but there is no such node. -/
def Dangling (doc : Document) (name : String) : Prop :=
  name ∈ doc.statements.flatMap Statement.endpoints ∧ name ∉ doc.statements.filterMap Statement.id?

instance (doc : Document) (name : String) : Decidable (Dangling doc name) :=
  inferInstanceAs (Decidable (_ ∧ _))

/-- The identifiers of attributes, of composites with their parts, and of triangles. -/
def madeUp (d : Diagram) : List String :=
  d.attributes.map (fun a => attributeId a.owner a.name) ++
  d.composites.flatMap (fun c =>
    attributeId c.owner c.name :: c.parts.map (partId c.owner c.name)) ++
  d.generalizations.zipIdx.map fun (i, position) => triangleId i.supertype position

section
variable {d : Diagram} {name : String}

theorem mem_endpoints_hang {parent id : String} {attrs : List Attr} :
    name ∈ (hang parent id attrs).flatMap Statement.endpoints ↔ name ∈ [parent] ∨ name ∈ [id] := by
  simp [hang, Statement.endpoints]

theorem mem_endpoints_ofComposite {c : Composite} :
    name ∈ (ofComposite c).flatMap Statement.endpoints ↔
      name ∈ (Declaration.composite c).references ∨
      name ∈ attributeId c.owner c.name :: c.parts.map (partId c.owner c.name) := by
  rw [ofComposite, List.flatMap_append, List.mem_append, mem_endpoints_hang, List.flatMap_assoc,
    List.mem_flatMap]
  simp only [mem_endpoints_hang, List.mem_cons, List.mem_map, Declaration.references]
  grind

theorem mem_endpoints_ofGeneralization {i : Generalization} {position : Nat} :
    name ∈ (ofGeneralization i position).flatMap Statement.endpoints ↔
      name ∈ (Declaration.generalization i).references ∨
      name ∈ [triangleId i.supertype position] := by
  rw [ofGeneralization, List.flatMap_append, List.mem_append, mem_endpoints_hang, List.flatMap_map]
  simp only [List.mem_flatMap, Statement.endpoints, List.mem_cons, Declaration.references]
  grind

theorem mem_endpoints_ofEdge {e : Edge} :
    name ∈ (ofEdge e).flatMap Statement.endpoints ↔ name ∈ (Declaration.edge e).references := by
  unfold ofEdge
  split
  · next r hr => simp [Statement.endpoints, Declaration.references, hr, or_left_comm]
  · next hr => simp [Statement.endpoints, Declaration.references, hr]

theorem mem_flatMap_or {α : Type} {l : List α} {f u v : α → List String}
    (h : ∀ a, name ∈ f a ↔ name ∈ u a ∨ name ∈ v a) :
    name ∈ l.flatMap f ↔ name ∈ l.flatMap u ∨ name ∈ l.flatMap v := by
  simp only [List.mem_flatMap, h, and_or_left, exists_or]

theorem mem_endpoints_generalizationStatements (groups : List Generalization) :
    name ∈ (generalizationStatements groups).flatMap Statement.endpoints ↔
      name ∈ groups.flatMap (fun i => (Declaration.generalization i).references) ∨
      name ∈ groups.zipIdx.map fun (i, position) => triangleId i.supertype position := by
  have hgroups : groups.flatMap (fun i => (Declaration.generalization i).references) =
      groups.zipIdx.flatMap fun p => (Declaration.generalization p.1).references := by
    rw [← List.flatMap_map Prod.fst fun i => (Declaration.generalization i).references,
      List.zipIdx_map_fst]
  rw [generalizationStatements, List.flatMap_assoc, hgroups, List.map_eq_flatMap]
  exact mem_flatMap_or fun p => mem_endpoints_ofGeneralization

theorem mem_endpoints_statements :
    name ∈ (statements d).flatMap Statement.endpoints ↔ name ∈ d.references ∨ name ∈ madeUp d := by
  have hentities : (d.entities.values.map (ofEntity d.theme)).flatMap Statement.endpoints = [] := by
    simp [ofEntity, Statement.endpoints]
  have hrelationships :
      (d.relationships.values.map (ofRelationship d.theme)).flatMap Statement.endpoints = [] := by
    simp [ofRelationship, Statement.endpoints]
  have hattributes : name ∈ (d.attributes.flatMap ofAttribute).flatMap Statement.endpoints ↔
      name ∈ d.attributes.flatMap (fun a => (Declaration.attribute a).references) ∨
      name ∈ d.attributes.map fun a => attributeId a.owner a.name := by
    rw [List.flatMap_assoc, List.map_eq_flatMap]
    exact mem_flatMap_or fun a => mem_endpoints_hang
  have hcomposites : name ∈ (d.composites.flatMap ofComposite).flatMap Statement.endpoints ↔
      name ∈ d.composites.flatMap (fun c => (Declaration.composite c).references) ∨
      name ∈ d.composites.flatMap fun c =>
        attributeId c.owner c.name :: c.parts.map (partId c.owner c.name) := by
    rw [List.flatMap_assoc]
    exact mem_flatMap_or fun c => mem_endpoints_ofComposite
  have hedges : name ∈ (d.edges.flatMap ofEdge).flatMap Statement.endpoints ↔
      name ∈ d.edges.flatMap fun e => (Declaration.edge e).references := by
    rw [List.flatMap_assoc]
    simp only [List.mem_flatMap, ← mem_endpoints_ofEdge]
  simp only [statements, List.flatMap_append, hentities, hrelationships, List.nil_append,
    List.mem_append, hattributes, hcomposites, mem_endpoints_generalizationStatements, hedges,
    Diagram.references, madeUp]
  grind

/-! ## Nodes -/

theorem filterMap_id?_statements (d : Diagram) :
    (statements d).filterMap Statement.id? = (drawn d).map fun x => joinId x.segments := by
  calc (statements d).filterMap Statement.id?
      = ((statements d).filter (·.id?.isSome)).filterMap Statement.id? := by
        rw [List.filterMap_filter]
        refine List.filterMap_congr fun s _ => ?_
        cases s <;> rfl
    _ = (drawn d).filterMap fun x => (x.node d.theme).id? := by
        rw [filter_id?_statements, List.filterMap_map]
        rfl
    _ = (drawn d).map fun x => joinId x.segments := by
        simp only [id?_node, List.filterMap_eq_map']

theorem map_segments_drawn {g : EdgeGrammar} (hd : WellFormed g d) :
    (drawn d).map (fun x => joinId x.segments) = d.names ++ madeUp d := by
  have hname : ∀ name, joinId [name] = name := fun name => String.intercalate_singleton
  have hentities : (d.entities.values.map .entity).map (fun x : Drawn => joinId x.segments) =
      d.entities.keys := by
    rw [List.map_map, ← Table.map_name_values fun e he => (hd.entities e he).1]
    exact List.map_congr_left fun e _ => hname e.name
  have hrelationships :
      (d.relationships.values.map .relationship).map (fun x : Drawn => joinId x.segments) =
        d.relationships.keys := by
    rw [List.map_map, ← Table.map_name_values fun r hr => (hd.relationships r hr).1]
    exact List.map_congr_left fun r _ => hname r.name
  have hcomposites : (d.composites.flatMap fun c => .composite c :: c.parts.map (.part c)).map
      (fun x : Drawn => joinId x.segments) = d.composites.flatMap fun c =>
        attributeId c.owner c.name :: c.parts.map (partId c.owner c.name) := by
    rw [List.map_flatMap]
    refine congrArg (List.flatMap · _) (funext fun c => ?_)
    rw [List.map_cons, List.map_map]
    rfl
  simp only [drawn, List.map_append, hentities, hrelationships, hcomposites, List.map_map,
    Diagram.names, madeUp, List.append_assoc]
  rfl

/-! ## What hangs from what -/

theorem head?_connectors {x : Drawn} {parent : String} (h : x.parent? = some parent) :
    x.connectors.head? = some (.connector parent (joinId x.segments) []) := by
  cases x <;> cases h <;> rfl

theorem append_eq_append_cons {α : Type} {a : α} {l r before after : List α} (ha : a ∉ l)
    (h : l ++ r = before ++ a :: after) : ∃ mid, before = l ++ mid ∧ r = mid ++ a :: after := by
  induction l generalizing before with
  | nil => exact ⟨before, rfl, h⟩
  | cons b l ih =>
    rw [List.mem_cons, not_or] at ha
    cases before with
    | nil => exact absurd (List.cons.inj h).1.symm ha.1
    | cons c before =>
      obtain ⟨rfl, htail⟩ := List.cons.inj h
      obtain ⟨mid, rfl, hr⟩ := ih ha.2 htail
      exact ⟨mid, rfl, hr⟩

/-- The node at any place is that of the next thing to be drawn, and its connectors follow. -/
theorem block_at {theme : Option Theme} {xs : List Drawn} {rest before after : List Statement}
    {id : String} {attrs : List Attr} (hrest : ∀ s ∈ rest, s.id? = none)
    (h : xs.flatMap (Drawn.block theme) ++ rest = before ++ .node id attrs :: after) :
    ∃ x, xs[before.countP (·.id?.isSome)]? = some x ∧ x.node theme = .node id attrs ∧
      x.connectors <+: after := by
  induction xs generalizing before with
  | nil =>
    have hmem : .node id attrs ∈ rest := by
      rw [show rest = before ++ .node id attrs :: after from h]
      exact List.mem_append_right _ List.mem_cons_self
    exact absurd (hrest _ hmem) nofun
  | cons x xs ih =>
    rw [List.flatMap_cons, List.append_assoc] at h
    cases before with
    | nil =>
      obtain ⟨hnode, hafter⟩ := List.cons.inj h
      exact ⟨x, rfl, hnode, _, hafter⟩
    | cons b before =>
      obtain ⟨rfl, htail⟩ := List.cons.inj h
      -- The connectors of `x` are no nodes, so the place lies behind them.
      have hnode : .node id attrs ∉ x.connectors := fun hmem => nomatch id?_connectors x _ hmem
      obtain ⟨mid, rfl, hmid⟩ := append_eq_append_cons hnode htail
      obtain ⟨y, hy, hnode, hafter⟩ := ih hmid
      have hconnectors : x.connectors.countP (·.id?.isSome) = 0 :=
        List.countP_eq_zero.mpr fun s hs => by simp [id?_connectors x s hs]
      have hcount : (x.node theme :: (x.connectors ++ mid)).countP (·.id?.isSome) =
          mid.countP (·.id?.isSome) + 1 := by
        rw [List.countP_cons, List.countP_append, hconnectors, id?_node]
        simp
      rw [hcount]
      exact ⟨y, hy, hnode, hafter⟩

end

/-- The names that dangle are exactly those that some line refers to, no line declares, and nothing
made up goes by. And what was made up hangs from its parent: after the node of an attribute, of a
composite, of a part or of a triangle comes the connector into it, from the owner, from the
composite or from the supertype. -/
theorem dangling_iff_undeclared (g : EdgeGrammar) (direction : Direction) (text : String) :
    let d := (parse g text).diagram
    ∃ c doc, compileWith { grammar := g, direction } text = .ok c ∧
      Document.read? c.dot = some doc ∧
      (∀ name, Dangling doc name ↔
        (∃ x ∈ accepted g text, name ∈ x.references) ∧
        (∀ x ∈ accepted g text, x.declares? ≠ some name) ∧ name ∉ madeUp d) ∧
      ∀ before id attrs after, doc.statements = before ++ .node id attrs :: after →
        ∃ x, (drawn d)[before.countP (·.id?.isSome)]? = some x ∧
          x.node d.theme = .node id attrs ∧
          ∀ parent, x.parent? = some parent → after.head? = some (.connector parent id []) := by
  intro d
  refine ⟨_, _, rfl, read?_print _, fun name => ?_, fun before id attrs after h => ?_⟩
  · have hdeclared : (∀ x ∈ accepted g text, x.declares? ≠ some name) ↔ name ∉ d.names := by
      rw [mem_names_parse]
      simp
    have hnodes : name ∈ (statements d).filterMap Statement.id? ↔
        name ∈ d.names ∨ name ∈ madeUp d := by
      rw [filterMap_id?_statements, map_segments_drawn (wellFormed_parse g text), List.mem_append]
    show name ∈ (statements d).flatMap Statement.endpoints ∧
      name ∉ (statements d).filterMap Statement.id? ↔ _
    rw [mem_endpoints_statements, hnodes, hdeclared, ← mem_references_parse]
    grind
  · obtain ⟨x, hx, hnode, rest, rfl⟩ := block_at (id?_edges d.edges)
      ((statements_eq_blocks d).symm.trans h)
    refine ⟨x, hx, hnode, fun parent hparent => ?_⟩
    have hid : some (joinId x.segments) = some id := by
      rw [← id?_node d.theme, hnode]
      rfl
    rw [List.head?_append, head?_connectors hparent, Option.some.inj hid]
    rfl

/-- A name that no line declares dangles, unless it is the identifier of an attribute. -/
example :
    let text := "entity A\nattribute A n\nattribute A_n m\nISA B \x7bA\x7d"
    let doc := document (parse .full text).diagram .topDown
    Dangling doc "B" ∧ ¬ Dangling doc "A_n" := by
  decide +kernel

end Dot
end ChenDiagram
