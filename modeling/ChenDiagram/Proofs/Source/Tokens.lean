import ChenDiagram.Proofs.Text.Runs
import ChenDiagram.Proofs.Text.Scanners
import ChenDiagram.Source.Grammar

/-! What each token scanner accepts. Scanners are greedy, so every law says not only what was taken
but also that nothing more of its kind follows; the grammar leaves that unsaid, and the lemmas on
`Stops` supply it from the token that comes next. -/

namespace ChenDiagram.Source
open Text Scanner
variable {cs rest a w b z : List Char}

/-! ## Where tokens end -/

theorem IsName.stops_isBlank_self (hw : IsName w) : Stops isBlank w :=
  stops_of_forall fun c hc => isBlank_eq_false_of_isWordChar (hw.2 c hc)

theorem IsName.stops_isBlank (hw : IsName w) (rest : List Char) : Stops isBlank (w ++ rest) :=
  hw.stops_isBlank_self.append hw.1

theorem IsBreak.stops_isWordChar (hb : IsBreak b) (rest : List Char) :
    Stops isWordChar (b ++ rest) :=
  (stops_of_forall fun c hc => isWordChar_eq_false_of_isBlank (hb.2 c hc)).append hb.1

theorem IsGap.stops_isWordChar (hz : IsGap z) (h : Stops isWordChar rest) :
    Stops isWordChar (z ++ rest) := by
  cases z with
  | nil => exact h
  | cons c z => exact stops_cons.mpr (isWordChar_eq_false_of_isBlank (hz c (by simp)))

theorem isBreak_blank : IsBreak [' '] := ⟨by simp, by simp [IsGap, isBlank]⟩

/-! ## Scanners of single tokens -/

theorem gap_eq_some {u : Unit} :
    gap cs = some (u, rest) ↔ ∃ z, cs = z ++ rest ∧ IsGap z ∧ Stops isBlank rest := by
  rw [gap, bind_eq_some]
  constructor
  · intro hs
    obtain ⟨z, mid, hz, h⟩ := hs
    obtain ⟨-, rfl⟩ := pure_eq_some.mp h
    exact ⟨z, span_eq_some.mp hz⟩
  · intro hs
    obtain ⟨z, hz⟩ := hs
    exact ⟨z, rest, span_eq_some.mpr hz, pure_eq_some.mpr ⟨rfl, rfl⟩⟩

theorem gap_append (hz : IsGap z) (h : Stops isBlank rest) : gap (z ++ rest) = some ((), rest) :=
  gap_eq_some.mpr ⟨z, rfl, hz, h⟩

theorem blanks_eq_some {u : Unit} :
    blanks cs = some (u, rest) ↔ ∃ b, cs = b ++ rest ∧ IsBreak b ∧ Stops isBlank rest := by
  rw [blanks, bind_eq_some]
  constructor
  · intro hs
    obtain ⟨b, mid, hb, h⟩ := hs
    obtain ⟨-, rfl⟩ := pure_eq_some.mp h
    obtain ⟨hne, hspan⟩ := span1_eq_some.mp hb
    obtain ⟨hcs, hgap, hstop⟩ := span_eq_some.mp hspan
    exact ⟨b, hcs, ⟨hne, hgap⟩, hstop⟩
  · intro hs
    obtain ⟨b, hcs, hb, hstop⟩ := hs
    exact ⟨b, rest, span1_eq_some.mpr ⟨hb.1, span_eq_some.mpr ⟨hcs, hb.2, hstop⟩⟩,
      pure_eq_some.mpr ⟨rfl, rfl⟩⟩

theorem blanks_append (hb : IsBreak b) (h : Stops isBlank rest) :
    blanks (b ++ rest) = some ((), rest) :=
  blanks_eq_some.mpr ⟨b, rfl, hb, h⟩

theorem keyword_eq_some {text : String} {u : Unit} :
    keyword text cs = some (u, rest) ↔
      ∃ b, cs = text.toList ++ b ++ rest ∧ IsBreak b ∧ Stops isBlank rest := by
  rw [keyword, bind_eq_some]
  constructor
  · intro hs
    obtain ⟨_, mid, hlit, h⟩ := hs
    obtain ⟨b, rfl, hb, hstop⟩ := blanks_eq_some.mp h
    exact ⟨b, by rw [literal_eq_some.mp hlit, List.append_assoc], hb, hstop⟩
  · intro hs
    obtain ⟨b, rfl, hb, hstop⟩ := hs
    exact ⟨(), b ++ rest, literal_eq_some.mpr (List.append_assoc ..),
      blanks_eq_some.mpr ⟨b, rfl, hb, hstop⟩⟩

theorem keyword_append (text : String) (hb : IsBreak b) (h : Stops isBlank rest) :
    keyword text (text.toList ++ (b ++ rest)) = some ((), rest) :=
  keyword_eq_some.mpr ⟨b, (List.append_assoc ..).symm, hb, h⟩

theorem word_eq_some {name : String} :
    word cs = some (name, rest) ↔
      ∃ w, cs = w ++ rest ∧ name = String.ofList w ∧ IsName w ∧ Stops isWordChar rest := by
  rw [word, bind_eq_some]
  constructor
  · intro hs
    obtain ⟨w, mid, hw, h⟩ := hs
    obtain ⟨rfl, rfl⟩ := pure_eq_some.mp h
    obtain ⟨hne, hspan⟩ := span1_eq_some.mp hw
    obtain ⟨hcs, hword, hstop⟩ := span_eq_some.mp hspan
    exact ⟨w, hcs, rfl, ⟨hne, hword⟩, hstop⟩
  · intro hs
    obtain ⟨w, hcs, rfl, hw, hstop⟩ := hs
    exact ⟨w, rest, span1_eq_some.mpr ⟨hw.1, span_eq_some.mpr ⟨hcs, hw.2, hstop⟩⟩,
      pure_eq_some.mpr ⟨rfl, rfl⟩⟩

theorem word_append (hw : IsName w) (h : Stops isWordChar rest) :
    word (w ++ rest) = some (String.ofList w, rest) :=
  word_eq_some.mpr ⟨w, rfl, rfl, hw, h⟩

/-- A name at the very end of a text. -/
theorem word_eq_of_isName (hw : IsName w) : word w = some (String.ofList w, []) :=
  word_eq_some.mpr ⟨w, (List.append_nil w).symm, rfl, hw, stops_nil⟩

/-! ## Lists in braces -/

/-- Every name after the first stands behind a comma. -/
def nextName : Scanner String := do
  comma
  word

theorem nextName_eq_some {name : String} :
    nextName cs = some (name, rest) ↔
      ∃ z a w, cs = z ++ ',' :: (a ++ (w ++ rest)) ∧ name = String.ofList w ∧ IsGap z ∧ IsGap a ∧
        IsName w ∧ Stops isWordChar rest := by
  simp only [nextName, comma, bind_eq_some, gap_eq_some, literal_eq_some, word_eq_some]
  constructor
  · intro hs
    obtain ⟨_, _, ⟨_, _, ⟨z, rfl, hz, -⟩, _, _, rfl, a, rfl, ha, -⟩, w, rfl, rfl, hw, hstop⟩ := hs
    exact ⟨z, a, w, rfl, rfl, hz, ha, hw, hstop⟩
  · intro hs
    obtain ⟨z, a, w, rfl, rfl, hz, ha, hw, hstop⟩ := hs
    exact ⟨(), _, ⟨(), _, ⟨z, rfl, hz, stops_cons.mpr (by decide)⟩, (), _, rfl, a, rfl, ha,
      hw.stops_isBlank rest⟩, w, rfl, rfl, hw, hstop⟩

theorem advances_nextName : Advances nextName := by
  intro cs name rest h
  obtain ⟨z, a, w, rfl, -⟩ := nextName_eq_some.mp h
  simp only [List.length_append, List.length_cons]
  omega

/-- At the closing brace there is no further name. -/
theorem nextName_eq_none (hz : IsGap z) (rest : List Char) :
    nextName (z ++ '\x7d' :: rest) = none := by
  have hgap := gap_append hz (stops_cons.mpr (by decide) : Stops isBlank ('\x7d' :: rest))
  have hcomma : comma (z ++ '\x7d' :: rest) = none := by
    unfold comma
    rw [bind_of_eq_some hgap]
    rfl
  show (comma (z ++ '\x7d' :: rest)).bind _ = none
  rw [hcomma, Option.bind_none]

/-- A gap, a name, and further names up to a closing brace with `rest` behind it. -/
inductive NamesUpTo (rest : List Char) : List Char → List String → Prop where
  | intro {a w mid z : List Char} {others : List String} : IsGap a → IsName w →
      Stops isWordChar mid → Repeated nextName mid others (z ++ '\x7d' :: rest) → IsGap z →
      NamesUpTo rest (a ++ (w ++ mid)) (String.ofList w :: others)

theorem bracedNames_eq_some {names : List String} : bracedNames cs = some (names, rest) ↔
    ∃ list, cs = '\x7b' :: list ∧ NamesUpTo rest list names := by
  simp only [bracedNames, bind_eq_some, gap_eq_some, literal_eq_some,
    separated_eq_some (s := word) advances_nextName, word_eq_some, pure_eq_some]
  constructor
  · intro hs
    obtain ⟨_, _, rfl, _, _, ⟨a, rfl, ha, -⟩, hs⟩ := hs
    obtain ⟨_, _, ⟨_, mid, others, rfl, ⟨w, rfl, rfl, hw, hstop⟩, hothers⟩, hs⟩ := hs
    obtain ⟨_, _, ⟨z, rfl, hz, -⟩, _, _, rfl, rfl, rfl⟩ := hs
    exact ⟨_, rfl, .intro ha hw hstop hothers hz⟩
  · intro hs
    obtain ⟨list, rfl, hlist⟩ := hs
    cases hlist with
    | @intro a w mid z others ha hw hstop hothers hz =>
      exact ⟨(), _, rfl, (), _, ⟨a, rfl, ha, hw.stops_isBlank mid⟩, _, _,
        ⟨_, mid, others, rfl, ⟨w, rfl, rfl, hw, hstop⟩, hothers⟩, (), _,
        ⟨z, rfl, hz, stops_cons.mpr (by decide)⟩, (), _, rfl, rfl, rfl⟩

theorem bracedParts_eq_some {parts : List String} :
    bracedParts cs = some (parts, rest) ↔
      ∃ body, cs = '\x7b' :: (body ++ '\x7d' :: rest) ∧ '\x7d' ∉ body ∧
        (∀ part ∈ pieces ',' body, trim part ≠ []) ∧
        parts = (pieces ',' body).map fun part => String.ofList (trim part) := by
  simp only [bracedParts, bind_eq_some, literal_eq_some, span1_eq_some, span_eq_some]
  constructor
  · intro hs
    obtain ⟨_, mid, rfl, body, mid', ⟨-, rfl, hbody, -⟩, _, mid'', rfl, h⟩ := hs
    split at h
    · next hall =>
      obtain ⟨rfl, rfl⟩ := pure_eq_some.mp h
      refine ⟨body, by simp, fun hmem => ?_, fun part hpart => ?_, by simp⟩
      · simpa using hbody _ hmem
      · simpa using List.all_eq_true.mp hall _ (List.mem_map_of_mem hpart)
    · cases h
  · intro hs
    obtain ⟨body, rfl, hbody, hall, rfl⟩ := hs
    have hne : body ≠ [] := by
      rintro rfl
      exact hall [] (by simp) rfl
    refine ⟨(), body ++ '\x7d' :: rest, by simp, body, '\x7d' :: rest, ⟨hne, rfl, ?_, by simp⟩,
      (), rest, by simp, ?_⟩
    · intro c hc
      have hne : c ≠ '\x7d' := fun he => hbody (he ▸ hc)
      simpa using hne
    · have hparts : ((pieces ',' body).map trim).all (!·.isEmpty) = true := by
        simpa [List.all_eq_true] using hall
      rw [if_pos hparts]
      exact pure_eq_some.mpr ⟨by simp, rfl⟩

end ChenDiagram.Source
