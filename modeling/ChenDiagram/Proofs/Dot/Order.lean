import ChenDiagram.Proofs.Dot.Recovery
import ChenDiagram.Proofs.Model.Replay
import Mathlib.Data.List.Nodup
import Mathlib.Data.List.Perm.Subperm

/-! What a drawing shows of the order of declarations. Diagrams of the same content can still differ
in the order of their entities and in that of their relationships, and nowhere else do their
drawings differ. -/

namespace ChenDiagram

namespace Table
variable {κ α : Type} [DecidableEq κ] {s t : Table κ α}

theorem mem_of_get?_eq_some {key : κ} {value : α} (h : t.get? key = some value) :
    (key, value) ∈ t.entries := by
  obtain ⟨⟨k, v⟩, hfind, rfl⟩ := Option.map_eq_some_iff.mp h
  have hkey : k = key := by simpa using List.find?_some hfind
  exact hkey ▸ List.mem_of_find?_eq_some hfind

variable [DecidableEq α]

theorem sameEntries_iff :
    s.sameEntries t = true ↔ s.size = t.size ∧ ∀ e ∈ s.entries, t.get? e.1 = some e.2 := by
  simp only [sameEntries, Bool.and_eq_true, decide_eq_true_eq, List.all_eq_true]

/-- Tables that are equal up to order hold the same entries. -/
theorem perm_of_sameEntries (hkeys : s.keys.Nodup) (h : s.sameEntries t = true) :
    s.entries.Perm t.entries := by
  obtain ⟨hsize, hget⟩ := sameEntries_iff.mp h
  have hsubset : s.entries ⊆ t.entries := fun e he => mem_of_get?_eq_some (hget e he)
  exact ((List.Nodup.of_map _ hkeys).subperm hsubset).perm_of_length_le (Nat.le_of_eq hsize.symm)

/-- The order of the keys is all that such tables can differ in. -/
theorem values_eq_of_sameEntries (hkeys : s.keys.Nodup) (h : s.sameEntries t = true)
    (horder : s.keys = t.keys) : s.values = t.values := by
  have hget := (sameEntries_iff.mp h).2
  have hsome : s.values.map some = t.values.map some :=
    calc s.values.map some
      _ = s.keys.map t.get? := by
        rw [values, keys, List.map_map, List.map_map]
        exact List.map_congr_left fun e he => (hget e he).symm
      _ = t.keys.map t.get? := by rw [horder]
      _ = t.values.map some := map_get?_keys (horder ▸ hkeys)
  exact List.map_injective_iff.mpr (fun _ _ => Option.some.inj) hsome

end Table

namespace Diagram

theorem sameContent_iff {d d' : Diagram} : d.sameContent d' = true ↔
    d.entities.sameEntries d'.entities = true ∧
    d.relationships.sameEntries d'.relationships = true ∧
    d.attributes = d'.attributes ∧ d.composites = d'.composites ∧
    d.generalizations = d'.generalizations ∧ d.edges = d'.edges ∧ d.theme = d'.theme := by
  simp [sameContent, and_assoc]

end Diagram

namespace Dot
open Source

section
variable {g g' : EdgeGrammar} {d d' : Diagram}

theorem content_eq (h : d.sameContent d' = true) {part : Section}
    (hentities : part ≠ .entities) (hrelationships : part ≠ .relationships) :
    part.content d = part.content d' := by
  obtain ⟨-, -, hattributes, hcomposites, hgroups, hedges, -⟩ := Diagram.sameContent_iff.mp h
  match part with
  | .entities => exact absurd rfl hentities
  | .relationships => exact absurd rfl hrelationships
  | .attributes => rw [Section.content, Section.content, hattributes]
  | .composites => rw [Section.content, Section.content, hcomposites]
  | .generalizations => rw [Section.content, Section.content, hgroups]
  | .edges => rw [Section.content, Section.content, hedges]

theorem perm_content_entities (hd : WellFormed g d) (h : d.sameContent d' = true) :
    (Section.entities.content d).Perm (Section.entities.content d') := by
  obtain ⟨hentities, -, -, -, -, -, htheme⟩ := Diagram.sameContent_iff.mp h
  rw [Section.content, Section.content, htheme]
  exact ((Table.perm_of_sameEntries hd.entityKeys hentities).map Prod.snd).map _

theorem perm_content_relationships (hd : WellFormed g d) (h : d.sameContent d' = true) :
    (Section.relationships.content d).Perm (Section.relationships.content d') := by
  obtain ⟨-, hrelationships, -, -, -, -, htheme⟩ := Diagram.sameContent_iff.mp h
  rw [Section.content, Section.content, htheme]
  exact ((Table.perm_of_sameEntries hd.relationshipKeys hrelationships).map Prod.snd).map _

theorem diagram_eq_of_keys_eq (hd : WellFormed g d) (hd' : WellFormed g' d')
    (h : d.sameContent d' = true) (hentities : d.entities.keys = d'.entities.keys)
    (hrelationships : d.relationships.keys = d'.relationships.keys) : d = d' := by
  obtain ⟨hsameEntities, hsameRelationships, hattributes, hcomposites, hgroups, hedges, htheme⟩ :=
    Diagram.sameContent_iff.mp h
  refine Diagram.ext ?_ ?_ hattributes hcomposites hgroups hedges htheme
  · exact Table.eq_of_values_eq (fun e he => (hd.entities e he).1)
      (fun e he => (hd'.entities e he).1)
      (Table.values_eq_of_sameEntries hd.entityKeys hsameEntities hentities)
  · exact Table.eq_of_values_eq (fun r hr => (hd.relationships r hr).1)
      (fun r hr => (hd'.relationships r hr).1)
      (Table.values_eq_of_sameEntries hd.relationshipKeys hsameRelationships hrelationships)

end

/-- Diagrams of the same content are drawn with the same attributes, composites, triangles and
edges, and up to order with the same rectangles and the same diamonds. The drawings are equal
exactly if the names of the entities come in the same order, and so do those of the
relationships. -/
theorem drawing_of_same_content (g g' : EdgeGrammar) (direction : Direction)
    (text text' : String)
    (h : (parse g text).diagram.sameContent (parse g' text').diagram = true) :
    let d := (parse g text).diagram
    let d' := (parse g' text').diagram
    Document.read? (render d direction) =
      some ⟨direction, Section.all.flatMap (Section.content d)⟩ ∧
    Document.read? (render d' direction) =
      some ⟨direction, Section.all.flatMap (Section.content d')⟩ ∧
    (∀ part : Section, part ≠ .entities → part ≠ .relationships →
      part.content d = part.content d') ∧
    (Section.entities.content d).Perm (Section.entities.content d') ∧
    (Section.relationships.content d).Perm (Section.relationships.content d') ∧
    (render d direction = render d' direction ↔
      d.entities.keys = d'.entities.keys ∧ d.relationships.keys = d'.relationships.keys) := by
  intro d d'
  have hd : WellFormed g d := wellFormed_parse g text
  have hd' : WellFormed g' d' := wellFormed_parse g' text'
  have hread : ∀ d : Diagram, Document.read? (render d direction) =
      some ⟨direction, Section.all.flatMap (Section.content d)⟩ := by
    intro d
    rw [← Section.statements_eq_flatMap]
    exact read?_print (document d direction)
  refine ⟨hread d, hread d', fun part => content_eq h, perm_content_entities hd h,
    perm_content_relationships hd h, fun hrender => ?_, fun ⟨hentities, hrelationships⟩ => ?_⟩
  · have hstatements := statements_eq_of_render_eq hrender
    rw [entities_eq hd hd' hstatements, relationships_eq hd hd' hstatements]
    exact ⟨rfl, rfl⟩
  · rw [diagram_eq_of_keys_eq hd hd' h hentities hrelationships]

/-- The order of two entities makes the difference, but not where the relationship stands. -/
theorem drawing_of_same_content_swapped :
    let d := (parse .full "entity A\nrelationship A\nentity B\nentities: #123").diagram
    let d' := (parse .simplified "entities: #123\nentity B\nentity A\nrelationship A").diagram
    d.sameContent d' = true ∧ d.relationships.keys = d'.relationships.keys ∧
    (Section.entities.content d).Perm (Section.entities.content d') ∧
    render d .topDown ≠ render d' .topDown := by
  intro d d'
  have hsame : d.sameContent d' = true := by decide +kernel
  have hrelationships : d.relationships.keys = d'.relationships.keys := by decide +kernel
  have hentities : d.entities.keys ≠ d'.entities.keys := by decide +kernel
  obtain ⟨-, -, -, hperm, -, hrender⟩ :=
    drawing_of_same_content .full .simplified .topDown _ _ hsame
  exact ⟨hsame, hrelationships, hperm, fun heq => hentities (hrender.mp heq).1⟩

end Dot
end ChenDiagram
