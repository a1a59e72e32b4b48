import ChenDiagram.Dot.Layout
import ChenDiagram.Proofs.Text.Runs

/-! Where the sections of a drawing end. The statements of a section share a shape that the next
section does not start with, so equal lists of statements are equal section by section. Within a
section, equal lists have equal items if an item can be told from what follows it. -/

namespace ChenDiagram.Dot
open Text

/-! ## Lists of items -/

/-- Items that can be told apart in front of any `Rest` are known from what they concatenate to, as
far as `view` goes. -/
theorem map_eq_of_flatMap_eq {ι α β : Type} {f : ι → List α} (view : ι → β) (Item : ι → Prop)
    (Rest : List α → Prop) (hne : ∀ i, Item i → f i ≠ []) (hnil : Rest [])
    (happend : ∀ i rest, Item i → Rest (f i ++ rest))
    (hitem : ∀ i j s t, Item i → Item j → Rest s → Rest t → f i ++ s = f j ++ t →
      view i = view j ∧ s = t)
    {is js : List ι} (his : ∀ i ∈ is, Item i) (hjs : ∀ j ∈ js, Item j)
    (h : is.flatMap f = js.flatMap f) : is.map view = js.map view := by
  -- the items that are left are a `Rest` again, so `hitem` applies at every step
  have hrest : ∀ ks : List ι, (∀ k ∈ ks, Item k) → Rest (ks.flatMap f) := by
    intro ks hks
    cases ks with
    | nil => exact hnil
    | cons k ks =>
      rw [List.flatMap_cons]
      exact happend k _ (hks k (by simp))
  induction is generalizing js with
  | nil =>
    cases js with
    | nil => rfl
    | cons j js =>
      have hj : f j = [] := by simp_all
      exact absurd hj (hne j (hjs j (by simp)))
  | cons i is ih =>
    obtain ⟨hi, his⟩ := List.forall_mem_cons.mp his
    cases js with
    | nil =>
      have hi' : f i = [] := by simp_all
      exact absurd hi' (hne i hi)
    | cons j js =>
      obtain ⟨hj, hjs⟩ := List.forall_mem_cons.mp hjs
      rw [List.flatMap_cons, List.flatMap_cons] at h
      obtain ⟨hview, htail⟩ := hitem i j _ _ hi hj (hrest is his) (hrest js hjs) h
      rw [List.map_cons, List.map_cons, hview, ih his hjs htail]

theorem eq_of_map_eq_map {α β : Type} {f f' : α → β} (hf : ∀ a b, f a = f' b → a = b)
    {l l' : List α} (h : l.map f = l'.map f') : l = l' := by
  induction l generalizing l' with
  | nil => simpa [eq_comm] using h
  | cons a l ih =>
    cases l' with
    | nil => simp at h
    | cons b l' =>
      obtain ⟨hab, htail⟩ := List.cons.inj h
      rw [hf a b hab, ih htail]

/-! ## Sections -/

def hasShape (shape : Shape) : Statement → Bool
  | .node _ (.shape s :: _) => s = shape
  | _ => false

/-- A node of the given shape or a connector without attributes. -/
def hung (shape : Shape) : Statement → Bool
  | .connector _ _ attrs => attrs = []
  | s => hasShape shape s

theorem hasShape_of_hung {a b : Shape} {s : Statement} (h : hung a s = true) (hne : a ≠ b) :
    hasShape b s = false := by
  cases s with
  | connector => rfl
  | node id attrs =>
    cases attrs with
    | nil => rfl
    | cons attr attrs =>
      cases attr <;> simp_all [hung, hasShape]

theorem hung_hang {shape : Shape} {parent id : String} {attrs : List Attr} {s : Statement}
    (hnode : hung shape (.node id attrs) = true) (h : s ∈ hang parent id attrs) :
    hung shape s = true := by
  simp only [hang, List.mem_cons, List.not_mem_nil, or_false] at h
  rcases h with rfl | rfl
  · exact hnode
  · rfl

theorem hung_ofAttribute {a : Attribute} {s : Statement} (h : s ∈ ofAttribute a) :
    hung .ellipse s = true := by
  obtain ⟨owner, name, kind⟩ := a
  refine hung_hang ?_ h
  cases kind <;> rfl

theorem hung_ofComposite {c : Composite} {s : Statement} (h : s ∈ ofComposite c) :
    hung .ellipse s = true := by
  rcases List.mem_append.mp h with h | h
  · exact hung_hang rfl h
  · obtain ⟨part, -, h⟩ := List.mem_flatMap.mp h
    exact hung_hang rfl h

theorem hung_ofGeneralization {i : Generalization} {n : Nat} {s : Statement}
    (h : s ∈ ofGeneralization i n) : hung .triangle s = true := by
  rcases List.mem_append.mp h with h | h
  · exact hung_hang rfl h
  · obtain ⟨sub, -, rfl⟩ := List.mem_map.mp h
    rfl

theorem hung_ofEdge {e : Edge} {s : Statement} (h : s ∈ ofEdge e) (shape : Shape) :
    hung shape s = false := by
  rw [ofEdge] at h
  split at h
  · obtain ⟨p, -, rfl⟩ := List.mem_map.mp h
    rfl
  · rw [List.mem_singleton.mp h]
    rfl

section
variable (d : Diagram)

/-- Attributes and composites, which are drawn alike. -/
def ellipseStatements : List Statement :=
  d.attributes.flatMap ofAttribute ++ d.composites.flatMap ofComposite

/-- All that follows the relationships. -/
def lateStatements : List Statement :=
  ellipseStatements d ++ (generalizationStatements d.generalizations ++ d.edges.flatMap ofEdge)

theorem statements_eq_append : statements d =
    d.entities.values.map (ofEntity d.theme) ++
      (d.relationships.values.map (ofRelationship d.theme) ++ lateStatements d) := by
  simp only [statements, lateStatements, ellipseStatements, List.append_assoc]

theorem hasShape_entities :
    ∀ s ∈ d.entities.values.map (ofEntity d.theme), hasShape .rectangle s = true := by
  intro s hs
  obtain ⟨e, -, rfl⟩ := List.mem_map.mp hs
  rfl

theorem hasShape_relationships :
    ∀ s ∈ d.relationships.values.map (ofRelationship d.theme), hasShape .diamond s = true := by
  intro s hs
  obtain ⟨r, -, rfl⟩ := List.mem_map.mp hs
  rfl

theorem hung_ellipseStatements : ∀ s ∈ ellipseStatements d, hung .ellipse s = true := by
  intro s hs
  rcases List.mem_append.mp hs with hs | hs
  · obtain ⟨a, -, hs⟩ := List.mem_flatMap.mp hs
    exact hung_ofAttribute hs
  · obtain ⟨c, -, hs⟩ := List.mem_flatMap.mp hs
    exact hung_ofComposite hs

theorem hung_generalizationStatements (groups : List Generalization) :
    ∀ s ∈ generalizationStatements groups, hung .triangle s = true := by
  intro s hs
  obtain ⟨i, -, hs⟩ := List.mem_flatMap.mp hs
  exact hung_ofGeneralization hs

theorem hung_edges (edges : List Edge) (shape : Shape) :
    ∀ s ∈ edges.flatMap ofEdge, hung shape s = false := by
  intro s hs
  obtain ⟨e, -, hs⟩ := List.mem_flatMap.mp hs
  exact hung_ofEdge hs shape

theorem hasShape_edges (edges : List Edge) (shape : Shape) :
    ∀ s ∈ edges.flatMap ofEdge, hasShape shape s = false := by
  intro s hs
  have h := hung_edges edges shape s hs
  cases s with
  | connector => rfl
  | node => exact h

theorem hasShape_lateStatements {shape : Shape} (hellipse : shape ≠ .ellipse)
    (htriangle : shape ≠ .triangle) : ∀ s ∈ lateStatements d, hasShape shape s = false := by
  intro s hs
  rcases List.mem_append.mp hs with hs | hs
  · exact hasShape_of_hung (hung_ellipseStatements d s hs) hellipse.symm
  · rcases List.mem_append.mp hs with hs | hs
    · exact hasShape_of_hung (hung_generalizationStatements _ s hs) htriangle.symm
    · exact hasShape_edges _ shape s hs

theorem stops_rectangle : Stops (hasShape .rectangle)
    (d.relationships.values.map (ofRelationship d.theme) ++ lateStatements d) := by
  refine stops_of_forall fun s hs => ?_
  rcases List.mem_append.mp hs with hs | hs
  · obtain ⟨r, -, rfl⟩ := List.mem_map.mp hs
    rfl
  · exact hasShape_lateStatements d (by decide) (by decide) s hs

theorem stops_diamond : Stops (hasShape .diamond) (lateStatements d) :=
  stops_of_forall (hasShape_lateStatements d (by decide) (by decide))

/-- What comes after the composites starts with a triangle or with a labelled connector. -/
theorem stops_ellipse (groups : List Generalization) (edges : List Edge) :
    Stops (hung .ellipse) (generalizationStatements groups ++ edges.flatMap ofEdge) := by
  cases groups with
  | nil => exact stops_of_forall (hung_edges edges .ellipse)
  | cons i groups => exact stops_cons.mpr rfl

theorem stops_triangle (edges : List Edge) : Stops (hung .triangle) (edges.flatMap ofEdge) :=
  stops_of_forall (hung_edges edges .triangle)

end

/-- The sections of a drawing. -/
inductive Section where
  | entities
  | relationships
  | attributes
  | composites
  | generalizations
  | edges
deriving DecidableEq

namespace Section

/-- All sections in the order in which they are drawn. -/
def all : List Section :=
  [.entities, .relationships, .attributes, .composites, .generalizations, .edges]

def content (d : Diagram) : Section → List Statement
  | .entities => d.entities.values.map (ofEntity d.theme)
  | .relationships => d.relationships.values.map (ofRelationship d.theme)
  | .attributes => d.attributes.flatMap ofAttribute
  | .composites => d.composites.flatMap ofComposite
  | .generalizations => generalizationStatements d.generalizations
  | .edges => d.edges.flatMap ofEdge

theorem statements_eq_flatMap (d : Diagram) : statements d = all.flatMap (content d) := by
  simp [statements, all, content]

end Section

/-- Equal drawings have equal sections. -/
theorem sections_eq {d d' : Diagram} (h : statements d = statements d') :
    d.entities.values.map (ofEntity d.theme) = d'.entities.values.map (ofEntity d'.theme) ∧
    d.relationships.values.map (ofRelationship d.theme) =
      d'.relationships.values.map (ofRelationship d'.theme) ∧
    ellipseStatements d = ellipseStatements d' ∧
    generalizationStatements d.generalizations = generalizationStatements d'.generalizations ∧
    d.edges.flatMap ofEdge = d'.edges.flatMap ofEdge := by
  rw [statements_eq_append, statements_eq_append] at h
  obtain ⟨hentities, h⟩ := append_inj_of_stops (hasShape_entities d) (hasShape_entities d')
    (stops_rectangle d) (stops_rectangle d') h
  obtain ⟨hrelationships, h⟩ := append_inj_of_stops (hasShape_relationships d)
    (hasShape_relationships d') (stops_diamond d) (stops_diamond d') h
  obtain ⟨hellipses, h⟩ := append_inj_of_stops (hung_ellipseStatements d)
    (hung_ellipseStatements d') (stops_ellipse _ _) (stops_ellipse _ _) h
  obtain ⟨hgroups, hedges⟩ := append_inj_of_stops (hung_generalizationStatements _)
    (hung_generalizationStatements _) (stops_triangle _) (stops_triangle _) h
  exact ⟨hentities, hrelationships, hellipses, hgroups, hedges⟩

end ChenDiagram.Dot
