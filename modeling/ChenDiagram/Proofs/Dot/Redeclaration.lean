import ChenDiagram.Compile
import ChenDiagram.Proofs.Dot.RoundTrip
import ChenDiagram.Proofs.Dot.Sections
import ChenDiagram.Proofs.Source.Composition
import Mathlib.Data.List.Basic

/-! Names that are declared more than once. A drawing has one shape for each declared name, where
the name was first declared; outline and channel are those of its last declaration, and the colour
is that of the last directive for the channel. Entities and relationships follow one law, in which
`Kind` stands for either of them. -/

namespace ChenDiagram
open Text

namespace Source

/-- The accepted lines of a text, each with its rule and what it declares. -/
def acceptedLines (g : EdgeGrammar) (text : String) : List (Rule × Declaration) :=
  (pieces '\n' text.toList).filterMap fun raw => classify g (trim raw)

theorem accepted_eq_map (g : EdgeGrammar) (text : String) :
    accepted g text = (acceptedLines g text).map Prod.snd := by
  unfold accepted acceptedLines
  rw [List.map_filterMap]

theorem denotes_of_mem_acceptedLines {g : EdgeGrammar} {text : String} {r : Rule}
    {d : Declaration} (h : (r, d) ∈ acceptedLines g text) : ∃ line, Denotes r line d := by
  obtain ⟨raw, -, hraw⟩ := List.mem_filterMap.mp h
  exact ⟨trim raw, (denotes_of_classify hraw).2⟩

end Source

namespace Dot
open Source
variable {g : EdgeGrammar} {text : String} {d : Diagram}

/-! ## What the lines say -/

/-- What is declared by name and drawn in a shape of its own. -/
inductive Kind where
  | entity
  | relationship

namespace Kind

def shape : Kind → Shape
  | .entity => .rectangle
  | .relationship => .diamond

/-- Weak entities have a channel of their own; identifying relationships do not. -/
def channel : Kind → Bool → Channel
  | .entity, false => .entities
  | .entity, true => .weakEntities
  | .relationship, _ => .relationships

/-- The name that a line declares, and whether it is declared as a weak entity or an identifying
relationship. Lines of the other kind declare nothing here. -/
def declares : Kind → Rule × Declaration → Option (String × Bool)
  | .entity, (.entity, .entity e) => some (e.name, false)
  | .entity, (.weakEntity, .entity e) => some (e.name, true)
  | .relationship, (.relationship, .relationship r) => some (r.name, false)
  | .relationship, (.identifyingRelationship, .relationship r) => some (r.name, true)
  | _, _ => none

/-- All declarations of a kind in a text, line by line. -/
def declared (k : Kind) (g : EdgeGrammar) (text : String) : List (String × Bool) :=
  (acceptedLines g text).filterMap k.declares

end Kind

/-- Whether the last declaration of a name asks for a double outline. -/
def lastDoubled (declared : List (String × Bool)) (name : String) : Bool :=
  (declared.filter (·.1 = name)).getLast?.any Prod.snd

/-- The last colour that directives give to a channel, or its default if they give none. -/
def lastColor (directives : List (Channel × String)) (channel : Channel) : String :=
  (Theme.colorsOf channel directives).getLastD (({} : Theme).color channel)

/-- The node of a name under colour directives. There is a fill as soon as there is a directive,
for whatever channel. -/
def Kind.draw (k : Kind) (directives : List (Channel × String)) (name : String) (twice : Bool) :
    Statement :=
  .node name (.shape k.shape :: (if twice then [.doubled] else []) ++
    if directives = [] then [] else [.filled (lastColor directives (k.channel twice))])

/-- A node with this shape among its attributes. -/
def drawnAs (shape : Shape) : Statement → Bool
  | .node _ attrs => .shape shape ∈ attrs
  | .connector .. => false

/-! ## Shapes in a drawing -/

/-- A node has its shape in front and no other behind it. -/
def OneShape : Statement → Prop
  | .node _ (.shape _ :: attrs) => ∀ shape, .shape shape ∉ attrs
  | .node .. => False
  | .connector .. => True

theorem OneShape.drawnAs_eq {s : Statement} (h : OneShape s) (shape : Shape) :
    drawnAs shape s = hasShape shape s := by
  match s, h with
  | .connector .., _ => rfl
  | .node _ (.shape first :: attrs), h => simp [drawnAs, hasShape, h shape, eq_comm]

theorem shape_notMem_outline_fill (twice : Bool) (theme : Option Theme) (channel : Channel)
    (shape : Shape) : .shape shape ∉ outline twice ++ fill theme channel := by
  cases twice <;> cases theme <;> simp [outline, fill]

theorem oneShape_hang {parent id : String} {attrs : List Attr} {s : Statement}
    (hnode : OneShape (.node id attrs)) (h : s ∈ hang parent id attrs) : OneShape s := by
  simp only [hang, List.mem_cons, List.not_mem_nil, or_false] at h
  rcases h with rfl | rfl
  · exact hnode
  · trivial

theorem oneShape_ellipse (id label : String) : OneShape (.node id (ellipse label)) := by
  simp [OneShape, ellipse]

theorem oneShape_attribute (id : String) (a : Attribute) :
    OneShape (.node id (attributeAttrs a)) := by
  obtain ⟨owner, name, kind⟩ := a
  cases kind <;> simp [OneShape, attributeAttrs, ellipse]

theorem oneShape_ofEdge {e : Edge} {s : Statement} (h : s ∈ ofEdge e) : OneShape s := by
  rw [ofEdge] at h
  split at h
  · obtain ⟨p, -, rfl⟩ := List.mem_map.mp h
    trivial
  · rw [List.mem_singleton.mp h]
    trivial

theorem oneShape_lateStatements {s : Statement} (h : s ∈ lateStatements d) : OneShape s := by
  simp only [lateStatements, ellipseStatements, generalizationStatements, List.mem_append,
    List.mem_flatMap] at h
  rcases h with (⟨a, -, h⟩ | ⟨c, -, h⟩) | ⟨i, -, h⟩ | ⟨e, -, h⟩
  · exact oneShape_hang (oneShape_attribute _ a) h
  · rcases List.mem_append.mp h with h | h
    · exact oneShape_hang (oneShape_ellipse _ _) h
    · obtain ⟨part, -, h⟩ := List.mem_flatMap.mp h
      exact oneShape_hang (oneShape_ellipse _ _) h
  · rcases List.mem_append.mp h with h | h
    · exact oneShape_hang (by simp [OneShape]) h
    · obtain ⟨sub, -, rfl⟩ := List.mem_map.mp h
      trivial
  · exact oneShape_ofEdge h

theorem oneShape_statements {s : Statement} (h : s ∈ statements d) : OneShape s := by
  rw [statements_eq_append, List.mem_append, List.mem_append] at h
  rcases h with h | h | h
  · obtain ⟨e, -, rfl⟩ := List.mem_map.mp h
    exact shape_notMem_outline_fill _ _ _
  · obtain ⟨r, -, rfl⟩ := List.mem_map.mp h
    exact shape_notMem_outline_fill _ _ _
  · exact oneShape_lateStatements h

theorem filter_drawnAs_statements (d : Diagram) (shape : Shape) :
    (statements d).filter (drawnAs shape) = (statements d).filter (hasShape shape) :=
  List.filter_congr fun _ hs => (oneShape_statements hs).drawnAs_eq shape

/-- The rectangles of a drawing are its entities and the diamonds its relationships. -/
theorem filter_shape (k : Kind) (d : Diagram) :
    (statements d).filter (drawnAs k.shape) = match k with
      | .entity => d.entities.values.map (ofEntity d.theme)
      | .relationship => d.relationships.values.map (ofRelationship d.theme) := by
  have hshape : k.shape ≠ .ellipse ∧ k.shape ≠ .triangle := by cases k <;> decide
  have hlate : (lateStatements d).filter (hasShape k.shape) = [] :=
    List.filter_eq_nil_iff.mpr fun s hs =>
      Bool.eq_false_iff.mp (hasShape_lateStatements d hshape.1 hshape.2 s hs)
  rw [filter_drawnAs_statements, statements_eq_append, List.filter_append, List.filter_append,
    hlate, List.append_nil]
  cases k with
  | entity =>
    have hnone : ∀ s ∈ d.relationships.values.map (ofRelationship d.theme),
        ¬ hasShape .rectangle s = true := by
      simp [ofRelationship, hasShape]
    rw [Kind.shape, List.filter_eq_self.mpr (hasShape_entities d),
      List.filter_eq_nil_iff.mpr hnone, List.append_nil]
  | relationship =>
    have hnone : ∀ s ∈ d.entities.values.map (ofEntity d.theme),
        ¬ hasShape .diamond s = true := by
      simp [ofEntity, hasShape]
    rw [Kind.shape, List.filter_eq_self.mpr (hasShape_relationships d),
      List.filter_eq_nil_iff.mpr hnone, List.nil_append]

/-! ## Declarations in a text -/

/-- A kind is declared by the lines that make a record of it, with the name and the flag of the
record. -/
theorem declared_eq {α : Type} {k : Kind} {pick : Declaration → Option α} {tag : α → String × Bool}
    (h : ∀ r line d, Denotes r line d → k.declares (r, d) = (pick d).map tag) :
    k.declared g text = ((accepted g text).filterMap pick).map tag := by
  rw [Kind.declared, accepted_eq_map, List.filterMap_map, List.map_filterMap]
  refine List.filterMap_congr fun x hx => ?_
  obtain ⟨r, d⟩ := x
  obtain ⟨line, hline⟩ := denotes_of_mem_acceptedLines hx
  exact h r line d hline

theorem declared_entity (g : EdgeGrammar) (text : String) : Kind.entity.declared g text =
    ((accepted g text).filterMap Declaration.entity?).map fun e => (e.name, e.weak) :=
  declared_eq fun _ _ _ hd => by cases hd <;> rfl

theorem declared_relationship (g : EdgeGrammar) (text : String) :
    Kind.relationship.declared g text =
      ((accepted g text).filterMap Declaration.relationship?).map fun r =>
        (r.name, r.identifying) :=
  declared_eq fun _ _ _ hd => by cases hd <;> rfl

/-- Drawing a table of named things draws each name once, as the last thing of that name. -/
theorem map_values_eq {α : Type} {name : α → String} {flag : α → Bool}
    (draw : String → Bool → Statement) (xs : List α) :
    (xs.foldl (fun t x => t.insert (name x) x) Table.empty).values.map
        (fun x => draw (name x) (flag x)) =
      ((xs.map fun x => (name x, flag x)).map Prod.fst).eraseDups.map fun key =>
        draw key (lastDoubled (xs.map fun x => (name x, flag x)) key) := by
  have hlast : ∀ key, lastDoubled (xs.map fun x => (name x, flag x)) key =
      ((xs.filter (name · = key)).getLast?.map flag).getD false := by
    intro key
    unfold lastDoubled
    rw [List.filter_map, List.getLast?_map]
    show ((xs.filter (name · = key)).getLast?.map _).any _ = _
    cases (xs.filter (name · = key)).getLast? <;> rfl
  have hvalues := Table.map_some_values name xs
  refine (List.map_inj_right fun _ _ => Option.some.inj).mp ?_
  calc ((xs.foldl (fun t x => t.insert (name x) x) Table.empty).values.map
          fun x => draw (name x) (flag x)).map some
      = ((xs.map name).eraseDups.map fun key => (xs.filter (name · = key)).getLast?).map
          (Option.map fun x => draw (name x) (flag x)) := by
        rw [← hvalues, List.map_map, List.map_map]
        rfl
    _ = _ := by
        rw [List.map_map, List.map_map, List.map_map]
        refine List.map_congr_left fun key hkey => ?_
        -- a name of the table has a thing of that name, and so a last one
        obtain ⟨x, -, hx⟩ := List.mem_map.mp (hvalues ▸ List.mem_map_of_mem hkey)
        have hname : name x = key := by
          simpa using (List.mem_filter.mp (List.mem_of_getLast? hx.symm)).2
        show (xs.filter (name · = key)).getLast?.map _ = some (draw key (lastDoubled _ key))
        rw [hlast, ← hx]
        show some (draw (name x) (flag x)) = some (draw key (flag x))
        rw [hname]

theorem fill_parse (g : EdgeGrammar) (text : String) (channel : Channel) :
    fill (parse g text).diagram.theme channel =
      if directives g text = [] then []
      else [.filled (lastColor (directives g text) channel)] := by
  rw [theme_parse, Theme.replay]
  split
  · rfl
  · show [Attr.filled (Theme.color _ channel)] = _
    rw [Theme.color_foldl_set]
    rfl

theorem ofEntity_parse (g : EdgeGrammar) (text : String) :
    ofEntity (parse g text).diagram.theme =
      fun e => Kind.entity.draw (directives g text) e.name e.weak := by
  funext e
  obtain ⟨name, weak⟩ := e
  rw [ofEntity, fill_parse]
  cases weak <;> rfl

theorem ofRelationship_parse (g : EdgeGrammar) (text : String) :
    ofRelationship (parse g text).diagram.theme =
      fun r => Kind.relationship.draw (directives g text) r.name r.identifying := by
  funext r
  obtain ⟨name, identifying⟩ := r
  rw [ofRelationship, fill_parse]
  cases identifying <;> rfl

theorem filter_shape_parse (k : Kind) (g : EdgeGrammar) (text : String) :
    (statements (parse g text).diagram).filter (drawnAs k.shape) =
      ((k.declared g text).map Prod.fst).eraseDups.map fun name =>
        k.draw (directives g text) name (lastDoubled (k.declared g text) name) := by
  rw [filter_shape]
  cases k with
  | entity =>
    rw [ofEntity_parse, declared_entity, diagram_parse, Diagram.ofDeclarations,
      Diagram.entities_addAll]
    exact map_values_eq _ _
  | relationship =>
    rw [ofRelationship_parse, declared_relationship, diagram_parse, Diagram.ofDeclarations,
      Diagram.relationships_addAll]
    exact map_values_eq _ _

/-- The law of redeclaration, from a text to its DOT. The document has one node in the shape of a
kind for each name that lines of the kind declare, in the order of first declarations. The outline
of the node is double if the last declaration of the name makes a weak entity or an identifying
relationship of it. The node is filled if the text has a colour directive at all, with the last
colour given to the channel of that declaration or else the default of the channel. -/
theorem nodes_of_declared_names (k : Kind) (g : EdgeGrammar) (direction : Direction)
    (text : String) :
    ∃ c doc, compileWith { grammar := g, direction } text = .ok c ∧
      Document.read? c.dot = some doc ∧
      doc.statements.filter (drawnAs k.shape) =
        ((k.declared g text).map Prod.fst).eraseDups.map fun name =>
          k.draw (directives g text) name (lastDoubled (k.declared g text) name) :=
  ⟨_, _, rfl, read?_print _, filter_shape_parse k g text⟩

/-- The first place, the last outline, and a fill from a directive for another channel. -/
example : (statements (parse .full
    "entity A\nentity B\nweak entity A\nrelationships: #abc").diagram).filter (drawnAs .rectangle) =
      [.node "A" [.shape .rectangle, .doubled, .filled "#E8DDFF"],
       .node "B" [.shape .rectangle, .filled "#DDEEFF"]] := by
  decide +kernel

end Dot
end ChenDiagram
