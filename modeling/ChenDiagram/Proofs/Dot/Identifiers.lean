import ChenDiagram.Proofs.Dot.Recovery
import Mathlib.Data.List.Nodup

/-! Which nodes of a drawing share an identifier. A node is drawn for something in the diagram, and
its identifier is joined from the names that lead to it. A part of a composite comes last, after two
underscores; so if no other name has an underscore, the names can be told from the identifier, and
identifiers are shared only where the names are. -/

namespace ChenDiagram.Dot
open Text Source

/-! ## Joined names -/

theorem joinId_cons (a : String) {s : List String} (hs : s ≠ []) :
    joinId (a :: s) = a ++ "_" ++ joinId s := by
  cases s with
  | nil => exact absurd rfl hs
  | cons b s => exact String.intercalate_cons_cons

theorem joinId_singleton_ne {a b : String} {s : List String} (ha : '_' ∉ a.toList) (hs : s ≠ []) :
    joinId [a] ≠ joinId (b :: s) := by
  intro h
  rw [joinId_cons b hs] at h
  have hunderscore : '_' ∈ (joinId [a]).toList := by simp [h]
  exact absurd (by simpa [joinId] using hunderscore) ha

theorem append_underscore_inj {a b s t : String} (ha : '_' ∉ a.toList) (hb : '_' ∉ b.toList)
    (h : a ++ "_" ++ s = b ++ "_" ++ t) : a = b ∧ s = t := by
  have hword : ∀ w : String, '_' ∉ w.toList → ∀ c ∈ w.toList, (c ≠ '_' : Bool) = true := by
    intro w hw c hc
    simpa using fun he : c = '_' => hw (he ▸ hc)
  have hlists : a.toList ++ '_' :: s.toList = b.toList ++ '_' :: t.toList := by
    simpa using congrArg String.toList h
  obtain ⟨hab, hst⟩ := append_inj_of_stops (hword a ha) (hword b hb) (stops_cons.mpr (by decide))
    (stops_cons.mpr (by decide)) hlists
  exact ⟨String.toList_inj.mp hab, String.toList_inj.mp (List.cons.inj hst).2⟩

theorem toString_inj {m n : Nat} (h : toString m = toString n) : m = n := by
  have hdigits := congrArg (fun digits => Nat.ofDigitChars 10 digits.toList 0) h
  simpa [Nat.toString_eq_ofList_toDigits] using hdigits

/-- At most one name more than `n`, with no underscore in the first `n` of them. -/
structure Separable (n : Nat) (segments : List String) : Prop where
  ne_nil : segments ≠ []
  length_le : segments.length ≤ n + 1
  no_underscore : ∀ a ∈ segments.take n, '_' ∉ a.toList

theorem Separable.tail {n : Nat} {a : String} {s : List String} (h : Separable (n + 1) (a :: s))
    (hs : s ≠ []) : Separable n s where
  ne_nil := hs
  length_le := by simpa using h.length_le
  no_underscore := fun b hb => h.no_underscore b (by simp [hb])

/-- Only the first `n` underscores separate names. -/
theorem joinId_inj {n : Nat} {s t : List String} (hs : Separable n s) (ht : Separable n t)
    (h : joinId s = joinId t) : s = t := by
  induction n generalizing s t with
  | zero =>
    obtain ⟨a, rfl⟩ := List.length_eq_one_iff.mp
      (Nat.le_antisymm hs.length_le (List.length_pos_iff.mpr hs.ne_nil))
    obtain ⟨b, rfl⟩ := List.length_eq_one_iff.mp
      (Nat.le_antisymm ht.length_le (List.length_pos_iff.mpr ht.ne_nil))
    exact congrArg (fun a => [a]) (by simpa [joinId] using h)
  | succ n ih =>
    obtain ⟨a, s, rfl⟩ := List.ne_nil_iff_exists_cons.mp hs.ne_nil
    obtain ⟨b, t, rfl⟩ := List.ne_nil_iff_exists_cons.mp ht.ne_nil
    have ha : '_' ∉ a.toList := hs.no_underscore a (by simp)
    have hb : '_' ∉ b.toList := ht.no_underscore b (by simp)
    by_cases hsnil : s = []
    · by_cases htnil : t = []
      · subst hsnil htnil
        simpa [joinId] using h
      · subst hsnil
        exact absurd h (joinId_singleton_ne ha htnil)
    · by_cases htnil : t = []
      · subst htnil
        exact absurd h.symm (joinId_singleton_ne hb hsnil)
      · rw [joinId_cons a hsnil, joinId_cons b htnil] at h
        obtain ⟨rfl, hrest⟩ := append_underscore_inj ha hb h
        rw [ih (hs.tail hsnil) (ht.tail htnil) hrest]

/-! ## What nodes are drawn for -/

inductive Drawn where
  | entity (e : Entity)
  | relationship (r : Relationship)
  | attribute (a : Attribute)
  /-- The root of a composite, from which its parts hang. -/
  | composite (c : Composite)
  | part (c : Composite) (text : String)
  | triangle (i : Generalization) (position : Nat)

/-- Everything in a diagram that a node is drawn for, in the order of the nodes. -/
def drawn (d : Diagram) : List Drawn :=
  d.entities.values.map .entity ++ d.relationships.values.map .relationship ++
  d.attributes.map .attribute ++
  d.composites.flatMap (fun c => .composite c :: c.parts.map (.part c)) ++
  d.generalizations.zipIdx.map fun (i, position) => .triangle i position

namespace Drawn

def node (theme : Option Theme) : Drawn → Statement
  | .entity e => ofEntity theme e
  | .relationship r => ofRelationship theme r
  | .attribute a => .node (attributeId a.owner a.name) (attributeAttrs a)
  | .composite c => .node (attributeId c.owner c.name) (ellipse c.name)
  | .part c text => .node (partId c.owner c.name text) (ellipse text)
  | .triangle i position =>
    .node (triangleId i.supertype position) [.shape .triangle, .label "ISA"]

/-- What a node that was made up hangs from. -/
def parent? : Drawn → Option String
  | .entity _ | .relationship _ => none
  | .attribute a => some a.owner
  | .composite c => some c.owner
  | .part c _ => some (attributeId c.owner c.name)
  | .triangle i _ => some i.supertype

/-- The names that the identifier of the node is joined from. -/
def segments : Drawn → List String
  | .entity e => [e.name]
  | .relationship r => [r.name]
  | .attribute a => [a.owner, a.name]
  | .composite c => [c.owner, c.name]
  | .part c text => [c.owner, c.name, text]
  | .triangle i position => [i.supertype, "ISA", toString position]

/-- The connectors that are drawn right after the node. -/
def connectors : Drawn → List Statement
  | .triangle i position => groupConnectors i position
  | x => (x.parent?.map fun parent => Statement.connector parent (joinId x.segments) []).toList

/-- A node with its connectors, as they are drawn. -/
def block (theme : Option Theme) (x : Drawn) : List Statement := x.node theme :: x.connectors

/-- The identifier is a declared name, and not one that was made up from names. -/
def isDeclared : Drawn → Bool
  | .entity _ | .relationship _ => true
  | _ => false

/-- Owner and name of an attribute or a composite. -/
def owned? : Drawn → Option (String × String)
  | .attribute a => some (a.owner, a.name)
  | .composite c => some (c.owner, c.name)
  | _ => none

/-- What is drawn only once: a name within its kind, and a position among the groups. -/
inductive Mark where
  | entity (name : String)
  | relationship (name : String)
  | triangle (position : Nat)

def mark? : Drawn → Option Mark
  | .entity e => some (.entity e.name)
  | .relationship r => some (.relationship r.name)
  | .triangle _ position => some (.triangle position)
  | _ => none

end Drawn

/-- The identifier of a node. -/
def Statement.id? : Statement → Option String
  | .node id _ => some id
  | .connector .. => none

/-- What shares an identifier although it is drawn twice. -/
inductive Clash : Drawn → Drawn → Prop where
  | entity {e : Entity} {r : Relationship} : e.name = r.name → Clash (.entity e) (.relationship r)
  | relationship {e : Entity} {r : Relationship} : r.name = e.name →
      Clash (.relationship r) (.entity e)
  | owned {x y : Drawn} {owner name : String} : x.owned? = some (owner, name) →
      y.owned? = some (owner, name) → Clash x y
  | part {c c' : Composite} {text : String} : c.owner = c'.owner → c.name = c'.name →
      Clash (.part c text) (.part c' text)

/-- No name that identifiers are joined from has an underscore, the parts of composites excepted,
and no composite is taken for a triangle. -/
structure Unjoined (d : Diagram) : Prop where
  entities : ∀ e ∈ d.entities.values, '_' ∉ e.name.toList
  relationships : ∀ r ∈ d.relationships.values, '_' ∉ r.name.toList
  attributes : ∀ a ∈ d.attributes, '_' ∉ a.owner.toList ∧ '_' ∉ a.name.toList
  composites : ∀ c ∈ d.composites, '_' ∉ c.owner.toList ∧ '_' ∉ c.name.toList ∧ c.name ≠ "ISA"
  supertypes : ∀ i ∈ d.generalizations, '_' ∉ i.supertype.toList

section
variable {g : EdgeGrammar} {d : Diagram} {x y : Drawn}

theorem id?_node (theme : Option Theme) (x : Drawn) :
    (x.node theme).id? = some (joinId x.segments) := by
  cases x with
  | entity e => exact congrArg some String.intercalate_singleton.symm
  | relationship r => exact congrArg some String.intercalate_singleton.symm
  | _ => rfl

theorem id?_connectors (x : Drawn) : ∀ s ∈ x.connectors, s.id? = none := by
  cases x with
  | triangle i position => simp [Drawn.connectors, groupConnectors, Statement.id?]
  | _ => simp [Drawn.connectors, Drawn.parent?, Statement.id?]

theorem id?_edges (edges : List Edge) : ∀ s ∈ edges.flatMap ofEdge, s.id? = none := by
  intro s hs
  obtain ⟨e, -, hs⟩ := List.mem_flatMap.mp hs
  rw [ofEdge] at hs
  split at hs
  · obtain ⟨p, -, rfl⟩ := List.mem_map.mp hs
    rfl
  · rw [List.mem_singleton.mp hs]
    rfl

/-- A drawing goes from node to node, and the edges come last. -/
theorem statements_eq_blocks (d : Diagram) :
    statements d = (drawn d).flatMap (Drawn.block d.theme) ++ d.edges.flatMap ofEdge := by
  have hentities : d.entities.values.map (ofEntity d.theme) =
      (d.entities.values.map .entity).flatMap (Drawn.block d.theme) := by
    rw [List.flatMap_map, List.map_eq_flatMap]
    rfl
  have hrelationships : d.relationships.values.map (ofRelationship d.theme) =
      (d.relationships.values.map .relationship).flatMap (Drawn.block d.theme) := by
    rw [List.flatMap_map, List.map_eq_flatMap]
    rfl
  have hattributes : d.attributes.flatMap ofAttribute =
      (d.attributes.map .attribute).flatMap (Drawn.block d.theme) := by
    rw [List.flatMap_map]
    rfl
  have hcomposites : d.composites.flatMap ofComposite =
      (d.composites.flatMap fun c => .composite c :: c.parts.map (.part c)).flatMap
        (Drawn.block d.theme) := by
    rw [List.flatMap_assoc]
    refine congrArg (List.flatMap · _) (funext fun c => ?_)
    rw [List.flatMap_cons, List.flatMap_map]
    rfl
  have hgroups : generalizationStatements d.generalizations =
      (d.generalizations.zipIdx.map fun (i, position) => .triangle i position).flatMap
        (Drawn.block d.theme) := by
    rw [List.flatMap_map]
    rfl
  rw [statements, drawn, hentities, hrelationships, hattributes, hcomposites, hgroups]
  simp only [List.flatMap_append]

/-- The nodes of a drawing, in order. -/
theorem filter_id?_statements (d : Diagram) :
    (statements d).filter (·.id?.isSome) = (drawn d).map (Drawn.node d.theme) := by
  have hconnectors : ∀ x : Drawn, x.connectors.filter (·.id?.isSome) = [] := fun x =>
    List.filter_eq_nil_iff.mpr fun s hs => by simp [id?_connectors x s hs]
  have hblock : ∀ x : Drawn, (x.block d.theme).filter (·.id?.isSome) = [x.node d.theme] := by
    intro x
    rw [Drawn.block, List.filter_cons_of_pos (by simp [id?_node]), hconnectors]
  have hedges : (d.edges.flatMap ofEdge).filter (·.id?.isSome) = [] :=
    List.filter_eq_nil_iff.mpr fun s hs => by simp [id?_edges d.edges s hs]
  rw [statements_eq_blocks, List.filter_append, hedges, List.append_nil, List.filter_flatMap,
    List.map_eq_flatMap]
  exact congrArg (List.flatMap · _) (funext hblock)

/-! ## Names without underscores -/

theorem separable_segments (h : ∀ a ∈ x.segments.take 2, '_' ∉ a.toList) :
    Separable 2 x.segments where
  ne_nil := by cases x <;> exact List.cons_ne_nil _ _
  length_le := by cases x <;> simp [Drawn.segments]
  no_underscore := h

theorem Unjoined.separable (h : Unjoined d) (hx : x ∈ drawn d) : Separable 2 x.segments := by
  refine separable_segments ?_
  simp only [drawn, List.mem_append, List.mem_map, List.mem_flatMap, List.mem_cons] at hx
  rcases hx with (((⟨e, he, rfl⟩ | ⟨r, hr, rfl⟩) | ⟨a, ha, rfl⟩) | ⟨c, hc, hx⟩) | ⟨p, hp, rfl⟩
  · simpa [Drawn.segments] using h.entities e he
  · simpa [Drawn.segments] using h.relationships r hr
  · simpa [Drawn.segments] using h.attributes a ha
  · obtain ⟨howner, hname, -⟩ := h.composites c hc
    rcases hx with rfl | ⟨text, -, rfl⟩
    · simpa [Drawn.segments] using ⟨howner, hname⟩
    · simpa [Drawn.segments] using ⟨howner, hname⟩
  · simpa [Drawn.segments] using h.supertypes p.1 (List.fst_mem_of_mem_zipIdx hp)

theorem Unjoined.name_ne {c : Composite} {text : String} (h : Unjoined d)
    (hx : .part c text ∈ drawn d) : c.name ≠ "ISA" := by
  have hc : c ∈ d.composites ∧ text ∈ c.parts := by simpa [drawn] using hx
  exact (h.composites c hc.1).2.2

/-- The identifiers of two nodes are equal only if the same names lead to them. -/
theorem Unjoined.segments_eq (h : Unjoined d) (hx : x ∈ drawn d) (hy : y ∈ drawn d)
    (hid : (x.node d.theme).id? = (y.node d.theme).id?) : x.segments = y.segments := by
  rw [id?_node, id?_node, Option.some.injEq] at hid
  exact joinId_inj (h.separable hx) (h.separable hy) hid

theorem isDeclared_iff : x.isDeclared = true ↔ x.segments.length = 1 := by
  cases x <;> simp [Drawn.isDeclared, Drawn.segments]

theorem owned?_eq_some_iff {owner name : String} :
    x.owned? = some (owner, name) ↔ x.segments = [owner, name] := by
  cases x <;> simp [Drawn.owned?, Drawn.segments]

theorem Clash.segments_eq (h : Clash x y) : x.segments = y.segments := by
  cases h with
  | entity h => simp [Drawn.segments, h]
  | relationship h => simp [Drawn.segments, h]
  | owned hx hy => rw [owned?_eq_some_iff.mp hx, owned?_eq_some_iff.mp hy]
  | part howner hname => simp [Drawn.segments, howner, hname]

/-- The same names lead to two things only if those clash, or are one thing that is drawn once. -/
theorem clash_of_segments_eq (h : x.segments = y.segments)
    (hmark : ∀ m, x.mark? = some m → y.mark? ≠ some m)
    (hx : ∀ c text, x = .part c text → c.name ≠ "ISA")
    (hy : ∀ c text, y = .part c text → c.name ≠ "ISA") : Clash x y := by
  rcases howned : x.owned? with _ | ⟨owner, name⟩
  · cases x with
    | entity e =>
      cases y with
      | entity e' =>
        have hname : e.name = e'.name := by simpa [Drawn.segments] using h
        exact absurd rfl (hname ▸ hmark _ rfl)
      | relationship r => exact .entity (by simpa [Drawn.segments] using h)
      | _ => simp [Drawn.segments] at h
    | relationship r =>
      cases y with
      | entity e => exact .relationship (by simpa [Drawn.segments] using h)
      | relationship r' =>
        have hname : r.name = r'.name := by simpa [Drawn.segments] using h
        exact absurd rfl (hname ▸ hmark _ rfl)
      | _ => simp [Drawn.segments] at h
    | part c text =>
      cases y with
      | part c' text' =>
        obtain ⟨howner, hname, rfl⟩ :
            c.owner = c'.owner ∧ c.name = c'.name ∧ text = text' := by
          simpa [Drawn.segments] using h
        exact .part howner hname
      | triangle i position =>
        have hname : c.name = "ISA" := (List.cons.inj (List.cons.inj h).2).1
        exact absurd hname (hx c text rfl)
      | _ => simp [Drawn.segments] at h
    | triangle i position =>
      cases y with
      | part c text =>
        have hname : "ISA" = c.name := (List.cons.inj (List.cons.inj h).2).1
        exact absurd hname.symm (hy c text rfl)
      | triangle i' position' =>
        have hposition : position = position' :=
          toString_inj (List.cons.inj (List.cons.inj (List.cons.inj h).2).2).1
        exact absurd rfl (hposition ▸ hmark _ rfl)
      | _ => simp [Drawn.segments] at h
    | _ => cases howned
  · have hsegments := owned?_eq_some_iff.mp howned
    exact .owned howned (owned?_eq_some_iff.mpr (h ▸ hsegments))

/-! ## Positions -/

theorem filterMap_mark?_drawn (hd : WellFormed g d) : (drawn d).filterMap Drawn.mark? =
    d.entities.keys.map .entity ++ (d.relationships.keys.map .relationship ++
      (List.range d.generalizations.length).map .triangle) := by
  have hentities : (d.entities.values.map .entity).filterMap Drawn.mark? =
      d.entities.keys.map .entity := by
    rw [List.filterMap_map, ← Table.map_name_values fun e he => (hd.entities e he).1, List.map_map,
      ← List.filterMap_eq_map]
    rfl
  have hrelationships : (d.relationships.values.map .relationship).filterMap Drawn.mark? =
      d.relationships.keys.map .relationship := by
    rw [List.filterMap_map, ← Table.map_name_values fun r hr => (hd.relationships r hr).1,
      List.map_map, ← List.filterMap_eq_map]
    rfl
  have hattributes : (d.attributes.map .attribute).filterMap Drawn.mark? = [] := by
    simp [Drawn.mark?]
  have hcomposites : (d.composites.flatMap fun c =>
      .composite c :: c.parts.map (.part c)).filterMap Drawn.mark? = [] := by
    refine List.filterMap_eq_nil_iff.mpr fun x hx => ?_
    obtain ⟨c, -, hx⟩ := List.mem_flatMap.mp hx
    rcases List.mem_cons.mp hx with rfl | hpart
    · rfl
    · obtain ⟨text, -, rfl⟩ := List.mem_map.mp hpart
      rfl
  have htriangles : (d.generalizations.zipIdx.map fun (i, position) =>
      .triangle i position).filterMap Drawn.mark? =
        (List.range d.generalizations.length).map .triangle := by
    rw [List.filterMap_map, List.range_eq_range', ← List.zipIdx_map_snd, List.map_map,
      ← List.filterMap_eq_map]
    rfl
  rw [drawn]
  simp only [List.filterMap_append, hentities, hrelationships, hattributes, hcomposites,
    htriangles, List.nil_append, List.append_assoc]

theorem nodup_marks (hd : WellFormed g d) : ((drawn d).filterMap Drawn.mark?).Nodup := by
  have hentities : (d.entities.keys.map Drawn.Mark.entity).Nodup :=
    List.Nodup.map (fun _ _ => Drawn.Mark.entity.inj) hd.entityKeys
  have hrelationships : (d.relationships.keys.map Drawn.Mark.relationship).Nodup :=
    List.Nodup.map (fun _ _ => Drawn.Mark.relationship.inj) hd.relationshipKeys
  have htriangles : ((List.range d.generalizations.length).map Drawn.Mark.triangle).Nodup :=
    List.Nodup.map (fun _ _ => Drawn.Mark.triangle.inj) List.nodup_range
  rw [filterMap_mark?_drawn hd]
  refine hentities.append (hrelationships.append htriangles ?_) ?_
  · simp [List.Disjoint]
  · simp [List.Disjoint]

/-- What is drawn only once does not appear at two positions. -/
theorem mark?_ne {i j : Nat} (hd : WellFormed g d) (hij : i ≠ j) (hx : (drawn d)[i]? = some x)
    (hy : (drawn d)[j]? = some y) (m : Drawn.Mark) (hm : x.mark? = some m) :
    y.mark? ≠ some m := by
  have hpairs := List.pairwise_iff_getElem.mp (List.pairwise_filterMap.mp (nodup_marks hd))
  obtain ⟨hi, rfl⟩ := List.getElem?_eq_some_iff.mp hx
  obtain ⟨hj, rfl⟩ := List.getElem?_eq_some_iff.mp hy
  intro hm'
  rcases Nat.lt_or_gt_of_ne hij with hlt | hgt
  · exact hpairs i j hi hj hlt m hm m hm' rfl
  · exact hpairs j i hj hi hgt m hm' m hm rfl

/-- The nodes at two positions share an identifier exactly if they clash. -/
theorem id?_eq_iff_clash {i j : Nat} (hd : WellFormed g d) (h : Unjoined d) (hij : i ≠ j)
    (hx : (drawn d)[i]? = some x) (hy : (drawn d)[j]? = some y) :
    (x.node d.theme).id? = (y.node d.theme).id? ↔ Clash x y := by
  have hxmem : x ∈ drawn d := List.mem_of_getElem? hx
  have hymem : y ∈ drawn d := List.mem_of_getElem? hy
  constructor
  · intro hid
    refine clash_of_segments_eq (h.segments_eq hxmem hymem hid) (mark?_ne hd hij hx hy) ?_ ?_
    · rintro c text rfl
      exact h.name_ne hxmem
    · rintro c text rfl
      exact h.name_ne hymem
  · intro hclash
    rw [id?_node, id?_node, hclash.segments_eq]

end

/-- In a drawing whose names have no underscores, but for the parts of composites, two nodes share
an identifier exactly if they are an entity and a relationship of one name, or attributes or
composites of one owner and one name, or parts with one text of composites of one owner and one
name. So identifiers that were made up are not declared names, parts are not taken for attributes
or composites, and triangles share their identifiers with nothing. -/
theorem nodes_share_id_iff_clash (g : EdgeGrammar) (direction : Direction) (text : String)
    (h : Unjoined (parse g text).diagram) :
    let d := (parse g text).diagram
    let Share (x y : Drawn) := (x.node d.theme).id? = (y.node d.theme).id?
    (∃ doc, Document.read? (render d direction) = some doc ∧
      doc.statements.filter (·.id?.isSome) = (drawn d).map (Drawn.node d.theme)) ∧
    (∀ (i j : Nat) (x y : Drawn), i ≠ j → (drawn d)[i]? = some x → (drawn d)[j]? = some y →
      (Share x y ↔ Clash x y)) ∧
    (∀ x ∈ drawn d, ∀ y ∈ drawn d, x.isDeclared = false → y.isDeclared = true → ¬ Share x y) ∧
    (∀ c part, Drawn.part c part ∈ drawn d → ∀ y ∈ drawn d, y.owned?.isSome →
      ¬ Share (.part c part) y) ∧
    ∀ (i j : Nat) (k : Generalization) (n : Nat) (y : Drawn), i ≠ j →
      (drawn d)[i]? = some (.triangle k n) → (drawn d)[j]? = some y →
      ¬ Share (.triangle k n) y := by
  intro d Share
  have hd : WellFormed g d := wellFormed_parse g text
  have hiff : ∀ (i j : Nat) (x y : Drawn), i ≠ j → (drawn d)[i]? = some x →
      (drawn d)[j]? = some y → (Share x y ↔ Clash x y) :=
    fun i j x y hij hx hy => id?_eq_iff_clash hd h hij hx hy
  refine ⟨⟨_, read?_print _, filter_id?_statements d⟩, hiff, fun x hx y hy hxd hyd hshare => ?_,
    fun c part hc y hy howned hshare => ?_, fun i j k n y hij hk hy hshare => ?_⟩
  · have hsegments := h.segments_eq hx hy hshare
    have hdeclared : x.isDeclared = true :=
      isDeclared_iff.mpr (hsegments ▸ isDeclared_iff.mp hyd)
    exact absurd (hxd.symm.trans hdeclared) (by decide)
  · obtain ⟨⟨owner, name⟩, hnames⟩ := Option.isSome_iff_exists.mp howned
    have hsegments : [c.owner, c.name, part] = [owner, name] :=
      (h.segments_eq hc hy hshare).trans (owned?_eq_some_iff.mp hnames)
    simp at hsegments
  · cases (hiff i j _ y hij hk hy).mp hshare with
    | owned hk _ => cases hk

/-- The underscore of a part does not make a triangle of it. -/
theorem nodes_share_id_iff_clash_underscored_part :
    let d := (parse .full
      "entity A\nrelationship A\ncomposite A n \x7bISA_0\x7d\nISA A \x7bB\x7d").diagram
    Unjoined d ∧ Clash (.entity ⟨"A", false⟩) (.relationship ⟨"A", false⟩) ∧
    ((Drawn.triangle ⟨"A", ["B"]⟩ 0).node d.theme).id? ≠
      ((Drawn.part ⟨"A", "n", ["ISA_0"]⟩ "ISA_0").node d.theme).id? := by
  intro d
  have hdiagram : d =
      { entities := ⟨[("A", ⟨"A", false⟩)]⟩, relationships := ⟨[("A", ⟨"A", false⟩)]⟩,
        composites := [⟨"A", "n", ["ISA_0"]⟩], generalizations := [⟨"A", ["B"]⟩] } := by rfl
  have hunjoined : Unjoined d := by
    rw [hdiagram]
    exact ⟨by decide, by decide, by decide, by decide, by decide⟩
  have hdrawn : drawn d =
      [.entity ⟨"A", false⟩, .relationship ⟨"A", false⟩, .composite ⟨"A", "n", ["ISA_0"]⟩,
       .part ⟨"A", "n", ["ISA_0"]⟩ "ISA_0", .triangle ⟨"A", ["B"]⟩ 0] := by
    rw [hdiagram]
    rfl
  obtain ⟨-, hiff, -, -, htriangle⟩ := nodes_share_id_iff_clash .full .topDown _ hunjoined
  exact ⟨hunjoined,
    (hiff 0 1 _ _ (by decide) (congrArg (·[0]?) hdrawn) (congrArg (·[1]?) hdrawn)).mp rfl,
    htriangle 4 3 _ _ _ (by decide) (congrArg (·[4]?) hdrawn) (congrArg (·[3]?) hdrawn)⟩

end ChenDiagram.Dot
