import ChenDiagram.Proofs.Source.Writing
import Mathlib.Data.List.Basic

/-! The diagrams that texts describe are the well-formed ones. A diagram is restated as the
declarations that build it up again, section by section and each in its own order, and these are
written one to a line. -/

namespace ChenDiagram

def Theme.settings (theme : Theme) : List (Channel × String) :=
  [Channel.entities, .weakEntities, .relationships].map fun channel => (channel, theme.color channel)

namespace Diagram
variable {d : Diagram}

/-- The declarations of a diagram. A theme is restated by a directive for each channel. -/
def restate (d : Diagram) : List Declaration :=
  (d.theme.toList.flatMap Theme.settings).map (fun s => .color s.1 s.2) ++
    d.entities.values.map .entity ++ d.relationships.values.map .relationship ++
    d.attributes.map .attribute ++ d.composites.map .composite ++
    d.generalizations.map .generalization ++ d.edges.map .edge

theorem foldl_settings (theme : Option Theme) :
    (theme.toList.flatMap Theme.settings).foldl
      (fun theme s => some ((theme.getD {}).set s.1 s.2)) none = theme := by
  cases theme <;> rfl

section
variable (d)

theorem entities_restate : d.restate.filterMap Declaration.entity? = d.entities.values := by
  simp [restate, Declaration.entity?, Function.comp_def]

theorem relationships_restate :
    d.restate.filterMap Declaration.relationship? = d.relationships.values := by
  simp [restate, Declaration.relationship?, Function.comp_def]

theorem attributes_restate : d.restate.filterMap Declaration.attribute? = d.attributes := by
  simp [restate, Declaration.attribute?, Function.comp_def]

theorem composites_restate : d.restate.filterMap Declaration.composite? = d.composites := by
  simp [restate, Declaration.composite?, Function.comp_def]

theorem generalizations_restate :
    d.restate.filterMap Declaration.generalization? = d.generalizations := by
  simp [restate, Declaration.generalization?, Function.comp_def]

theorem edges_restate : d.restate.filterMap Declaration.edge? = d.edges := by
  simp [restate, Declaration.edge?, Function.comp_def]

theorem colors_restate :
    d.restate.filterMap Declaration.color? = d.theme.toList.flatMap Theme.settings := by
  simp [restate, Declaration.color?, Function.comp_def]

end

/-- Restating each section in its order builds the diagram up again, provided that entities and
relationships stand under their own names. -/
theorem ofDeclarations_restate (hentities : d.entities.keys.Nodup)
    (hentity : ∀ e ∈ d.entities.entries, e.1 = e.2.name)
    (hrelationships : d.relationships.keys.Nodup)
    (hrelationship : ∀ r ∈ d.relationships.entries, r.1 = r.2.name) :
    ofDeclarations d.restate = d := by
  unfold ofDeclarations
  ext1
  · rw [entities_addAll, entities_restate]
    exact Table.foldl_insert_values hentities hentity
  · rw [relationships_addAll, relationships_restate]
    exact Table.foldl_insert_values hrelationships hrelationship
  · rw [attributes_addAll, attributes_restate, List.nil_append]
  · rw [composites_addAll, composites_restate, List.nil_append]
  · rw [generalizations_addAll, generalizations_restate, List.nil_append]
  · rw [edges_addAll, edges_restate, List.nil_append]
  · rw [theme_addAll, colors_restate]
    exact foldl_settings d.theme

end Diagram

namespace Source
open Text
variable {g : EdgeGrammar} {d : Diagram} {x : Declaration}

theorem WellFormed.fits_restate (h : WellFormed g d) (hx : x ∈ d.restate) : Fits g x := by
  simp only [Diagram.restate, List.mem_append, List.mem_map] at hx
  rcases hx with (((((⟨s, hs, rfl⟩ | ⟨e, he, rfl⟩) | ⟨r, hr, rfl⟩) | ⟨a, ha, rfl⟩) | ⟨c, hc, rfl⟩) |
    ⟨i, hi, rfl⟩) | ⟨e, he, rfl⟩
  · obtain ⟨t, ht, hs⟩ := List.mem_flatMap.mp hs
    obtain ⟨channel, -, rfl⟩ := List.mem_map.mp hs
    exact h.theme t (Option.mem_toList.mp ht) channel
  · obtain ⟨entry, hentry, rfl⟩ := List.mem_map.mp he
    obtain ⟨hkey, hname⟩ := h.entities entry hentry
    rwa [hkey] at hname
  · obtain ⟨entry, hentry, rfl⟩ := List.mem_map.mp hr
    obtain ⟨hkey, hname⟩ := h.relationships entry hentry
    rwa [hkey] at hname
  · exact h.attributes a ha
  · exact h.composites c hc
  · exact h.generalizations i hi
  · exact h.edges e he

theorem WellFormed.parse_restate (h : WellFormed g d) :
    parse g (writeAll d.restate) = { diagram := d, ignored := [] } := by
  rw [parse_writeAll fun x hx => h.fits_restate hx]
  rw [Diagram.ofDeclarations_restate h.entityKeys (fun e he => (h.entities e he).1)
    h.relationshipKeys fun r hr => (h.relationships r hr).1]

/-- Texts describe the well-formed diagrams and no others, with every order of entities and of
relationships among them; and what some text describes, a text without stray lines does. -/
theorem exists_parse_iff_wellFormed (g : EdgeGrammar) (d : Diagram) :
    ((∃ text, (parse g text).diagram = d) ↔ WellFormed g d) ∧
      ((∃ text, parse g text = { diagram := d, ignored := [] }) ↔ WellFormed g d) := by
  have hback : WellFormed g d → ∃ text, parse g text = { diagram := d, ignored := [] } :=
    fun h => ⟨writeAll d.restate, h.parse_restate⟩
  refine ⟨⟨?_, fun h => ?_⟩, ?_, hback⟩
  · intro hd
    obtain ⟨text, rfl⟩ := hd
    exact wellFormed_parse g text
  · obtain ⟨text, htext⟩ := hback h
    exact ⟨text, congrArg Parsed.diagram htext⟩
  · intro hd
    obtain ⟨text, htext⟩ := hd
    have hdiagram : (parse g text).diagram = d := congrArg Parsed.diagram htext
    rw [← hdiagram]
    exact wellFormed_parse g text

end Source
end ChenDiagram
