import ChenDiagram.Text.Characters
import ChenDiagram.Text.Scanner

/-! How texts fall apart: where a run of a class of characters ends, what stripping leaves, and how
a text is put together from its pieces. `Stops` is the boundary condition of every greedy run, and
it is kept generic because the statements of a document are cut in the same way. -/

namespace ChenDiagram.Text

/-! ## Runs -/

section
variable {α : Type} {p : α → Bool} {run rest : List α}

/-- A run of `p` ends here: nothing follows, or something outside `p`. -/
def Stops (p : α → Bool) (rest : List α) : Prop := ∀ a ∈ rest.head?, p a = false

@[simp]
theorem stops_nil : Stops p [] := by simp [Stops]

@[simp]
theorem stops_cons {a : α} : Stops p (a :: rest) ↔ p a = false := by simp [Stops]

theorem stops_of_forall (h : ∀ a ∈ run, p a = false) : Stops p run := by
  cases run with
  | nil => exact stops_nil
  | cons a run => exact stops_cons.mpr (h a (by simp))

theorem Stops.append (hne : run ≠ []) (h : Stops p run) : Stops p (run ++ rest) := by
  cases run with
  | nil => exact absurd rfl hne
  | cons a run => simpa using h

theorem Stops.of_append (h : Stops p (run ++ rest)) : Stops p run := by
  cases run with
  | nil => exact stops_nil
  | cons a run => simpa using h

theorem dropWhile_eq_self_of_stops (h : Stops p rest) : rest.dropWhile p = rest := by
  cases rest with
  | nil => rfl
  | cons a rest => simp [stops_cons.mp h]

theorem takeWhile_eq_nil_of_stops (h : Stops p rest) : rest.takeWhile p = [] := by
  cases rest with
  | nil => rfl
  | cons a rest => simp [stops_cons.mp h]

theorem takeWhile_append_of_stops (hrun : ∀ a ∈ run, p a = true) (h : Stops p rest) :
    (run ++ rest).takeWhile p = run := by
  rw [List.takeWhile_append_of_pos hrun, takeWhile_eq_nil_of_stops h, List.append_nil]

theorem dropWhile_append_of_stops (hrun : ∀ a ∈ run, p a = true) (h : Stops p rest) :
    (run ++ rest).dropWhile p = rest := by
  rw [List.dropWhile_append_of_pos hrun, dropWhile_eq_self_of_stops h]

theorem stops_dropWhile (p : α → Bool) (l : List α) : Stops p (l.dropWhile p) := by
  intro a ha
  have h := List.head?_dropWhile_not p l
  rw [Option.mem_def.mp ha] at h
  simpa using h

/-- Two lists cut at the end of a run of `p` agree only if both halves do. -/
theorem append_inj_of_stops {run' rest' : List α} (hrun : ∀ a ∈ run, p a = true)
    (hrun' : ∀ a ∈ run', p a = true) (hrest : Stops p rest) (hrest' : Stops p rest')
    (h : run ++ rest = run' ++ rest') : run = run' ∧ rest = rest' := by
  have htake := congrArg (List.takeWhile p) h
  have hdrop := congrArg (List.dropWhile p) h
  rw [takeWhile_append_of_stops hrun hrest, takeWhile_append_of_stops hrun' hrest'] at htake
  rw [dropWhile_append_of_stops hrun hrest, dropWhile_append_of_stops hrun' hrest'] at hdrop
  exact ⟨htake, hdrop⟩

end

/-! ## Classes of characters

White space and the characters of names have no member in common. Both are tables of ranges, so it
is enough that no range of one meets a range of the other. -/

def CodeRange.apart (r s : CodeRange) : Bool := r.last < s.first || s.last < r.first

theorem inRanges_eq_false_of_apart {rs ss : List CodeRange}
    (h : rs.all (fun r => ss.all r.apart) = true) {c : Char} (hc : inRanges rs c = true) :
    inRanges ss c = false := by
  obtain ⟨r, hr, hrc⟩ := List.any_eq_true.mp hc
  refine List.any_eq_false.mpr fun s hs => ?_
  have ha := List.all_eq_true.mp (List.all_eq_true.mp h r hr) s hs
  simp only [CodeRange.apart, CodeRange.contains, Bool.or_eq_true, Bool.and_eq_true,
    decide_eq_true_eq] at ha hrc ⊢
  omega

theorem isAlphanum_iff {c : Char} : c.isAlphanum = true ↔
    ((0x41 ≤ c.toNat ∧ c.toNat ≤ 0x5A) ∨ (0x61 ≤ c.toNat ∧ c.toNat ≤ 0x7A)) ∨
      (0x30 ≤ c.toNat ∧ c.toNat ≤ 0x39) := by
  unfold Char.isAlphanum Char.isAlpha Char.isUpper Char.isLower Char.isDigit
  simp only [Bool.or_eq_true, Bool.and_eq_true, decide_eq_true_eq, ge_iff_le,
    UInt32.le_iff_toNat_le]
  rfl

/-- The digits, letters and the underscore of ASCII. -/
def asciiWord : List CodeRange := [⟨0x30, 0x39⟩, ⟨0x41, 0x5A⟩, ⟨0x5F, 0x5F⟩, ⟨0x61, 0x7A⟩]

theorem inRanges_asciiWord {c : Char} (h : c = '_' ∨ c.isAlphanum = true) :
    inRanges asciiWord c = true := by
  rcases h with rfl | h
  · decide
  · rw [isAlphanum_iff] at h
    simp only [asciiWord, inRanges, CodeRange.contains, List.any_cons, List.any_nil,
      Bool.or_eq_true, Bool.and_eq_true, decide_eq_true_eq]
    omega

theorem isWordChar_eq_false_of_isSpace {c : Char} (h : isSpace c = true) :
    isWordChar c = false := by
  have hascii : inRanges asciiWord c = false :=
    inRanges_eq_false_of_apart (by decide +kernel) h
  have halpha : inRanges alphabetic c = false :=
    inRanges_eq_false_of_apart (by decide +kernel) h
  have hnum : inRanges numeric c = false :=
    inRanges_eq_false_of_apart (by decide +kernel) h
  have hnot : ¬ (c = '_' ∨ c.isAlphanum = true) := fun hc => by
    rw [inRanges_asciiWord hc] at hascii
    cases hascii
  simp only [not_or, Bool.not_eq_true] at hnot
  simp [isWordChar, hnot.1, hnot.2, halpha, hnum]

theorem isSpace_eq_false_of_isWordChar {c : Char} (h : isWordChar c = true) :
    isSpace c = false := by
  cases hs : isSpace c with
  | false => rfl
  | true => rw [isWordChar_eq_false_of_isSpace hs] at h; cases h

theorem isWordChar_eq_false_of_isBlank {c : Char} (h : isBlank c = true) :
    isWordChar c = false :=
  isWordChar_eq_false_of_isSpace (isSpace_of_isBlank h)

theorem isBlank_eq_false_of_isWordChar {c : Char} (h : isWordChar c = true) :
    isBlank c = false := by
  cases hb : isBlank c with
  | false => rfl
  | true => rw [isWordChar_eq_false_of_isBlank hb] at h; cases h

/-! ## Stripping -/

section
variable {p : Char → Bool} {a w b cs : List Char}

/-- Stripping takes a run of `p` off either end. -/
theorem exists_strip (p : Char → Bool) (cs : List Char) :
    ∃ a b, cs = a ++ strip p cs ++ b ∧ (∀ c ∈ a, p c = true) ∧ ∀ c ∈ b, p c = true := by
  refine ⟨cs.takeWhile p, ((cs.dropWhile p).reverse.takeWhile p).reverse, ?_, ?_, ?_⟩
  · rw [strip, List.append_assoc, ← List.reverse_append, List.takeWhile_append_dropWhile,
      List.reverse_reverse, List.takeWhile_append_dropWhile]
  · exact fun c hc => List.all_eq_true.mp List.all_takeWhile c hc
  · intro c hc
    exact List.all_eq_true.mp List.all_takeWhile c (List.mem_reverse.mp hc)

theorem stops_strip (p : Char → Bool) (cs : List Char) : Stops p (strip p cs) := by
  have hsplit : strip p cs ++ ((cs.dropWhile p).reverse.takeWhile p).reverse =
      cs.dropWhile p := by
    rw [strip, ← List.reverse_append, List.takeWhile_append_dropWhile, List.reverse_reverse]
  have hstop := stops_dropWhile p cs
  rw [← hsplit] at hstop
  cases hs : strip p cs with
  | nil => exact stops_nil
  | cons c w => rw [hs] at hstop; simpa using hstop

theorem stops_reverse_strip (p : Char → Bool) (cs : List Char) :
    Stops p (strip p cs).reverse := by
  rw [strip, List.reverse_reverse]
  exact stops_dropWhile p _

theorem strip_eq_self (hw : Stops p w) (hw' : Stops p w.reverse) : strip p w = w := by
  rw [strip, dropWhile_eq_self_of_stops hw, dropWhile_eq_self_of_stops hw', List.reverse_reverse]

theorem strip_strip (p : Char → Bool) (cs : List Char) : strip p (strip p cs) = strip p cs :=
  strip_eq_self (stops_strip p cs) (stops_reverse_strip p cs)

theorem strip_eq_nil_iff : strip p cs = [] ↔ ∀ c ∈ cs, p c = true := by
  constructor
  · intro h c hc
    obtain ⟨a, b, hcs, ha, hb⟩ := exists_strip p cs
    rw [hcs, h, List.append_nil, List.mem_append] at hc
    exact hc.elim (ha c) (hb c)
  · intro h
    have hdrop := dropWhile_append_of_stops h stops_nil
    rw [List.append_nil] at hdrop
    simp [strip, hdrop]

theorem mem_of_mem_strip {c : Char} (h : c ∈ strip p cs) : c ∈ cs := by
  obtain ⟨a, b, hcs, -, -⟩ := exists_strip p cs
  rw [hcs]
  simp [h]

theorem strip_append (ha : ∀ c ∈ a, p c = true) (hb : ∀ c ∈ b, p c = true)
    (hne : w ≠ []) (hw : Stops p w) (hw' : Stops p w.reverse) : strip p (a ++ w ++ b) = w := by
  rw [strip, List.append_assoc, dropWhile_append_of_stops ha (hw.append hne), List.reverse_append,
    dropWhile_append_of_stops (fun c hc => hb c (List.mem_reverse.mp hc)) hw',
    List.reverse_reverse]

/-- More of `p` at either end is stripped as well. -/
theorem strip_pad (ha : ∀ c ∈ a, p c = true) (hb : ∀ c ∈ b, p c = true) (cs : List Char) :
    strip p (a ++ cs ++ b) = strip p cs := by
  by_cases hnil : strip p cs = []
  · rw [hnil, strip_eq_nil_iff]
    have hcs := strip_eq_nil_iff.mp hnil
    intro c hc
    simp only [List.mem_append] at hc
    rcases hc with (hc | hc) | hc
    · exact ha c hc
    · exact hcs c hc
    · exact hb c hc
  · obtain ⟨a', b', hcs, ha', hb'⟩ := exists_strip p cs
    have hsplit : a ++ cs ++ b = (a ++ a') ++ strip p cs ++ (b' ++ b) :=
      calc a ++ cs ++ b = a ++ (a' ++ strip p cs ++ b') ++ b := by rw [← hcs]
        _ = (a ++ a') ++ strip p cs ++ (b' ++ b) := by simp only [List.append_assoc]
    rw [hsplit]
    exact strip_append (List.forall_mem_append.mpr ⟨ha, ha'⟩)
      (List.forall_mem_append.mpr ⟨hb', hb⟩) hnil (stops_strip p cs) (stops_reverse_strip p cs)

end

/-! ## Pieces -/

section
variable {sep : Char} {p rest : List Char}

/-- Cutting at a separator is the library's splitting, whose laws apply. -/
theorem pieces_eq_splitOn (sep : Char) (cs : List Char) : pieces sep cs = cs.splitOn sep := by
  induction cs with
  | nil => simp [List.splitOn_eq_splitOnP]
  | cons c cs ih => simp [pieces_cons, List.splitOn_cons_eq_if_modifyHead, ih]

theorem pieces_ne_nil (sep : Char) (cs : List Char) : pieces sep cs ≠ [] := by
  rw [pieces_eq_splitOn]
  exact List.splitOn_ne_nil sep cs

theorem pieces_of_notMem (h : sep ∉ p) : pieces sep p = [p] := by
  rw [pieces_eq_splitOn, List.splitOn_eq_singleton h]

theorem pieces_append_cons (h : sep ∉ p) :
    pieces sep (p ++ sep :: rest) = p :: pieces sep rest := by
  rw [pieces_eq_splitOn, List.splitOn_append_cons_self_of_not_mem h, pieces_eq_splitOn]

/-- Every text is one piece, or a first piece with a separator and more text after it. -/
theorem pieces_induction (sep : Char) {motive : List Char → Prop}
    (last : ∀ p, sep ∉ p → motive p)
    (more : ∀ p rest, sep ∉ p → motive rest → motive (p ++ sep :: rest)) (cs : List Char) :
    motive cs := by
  by_cases h : sep ∈ cs
  · obtain ⟨p, rest, hcs, hp⟩ := List.eq_append_cons_of_mem h
    have hlt : rest.length < cs.length := by
      rw [hcs, List.length_append, List.length_cons]
      omega
    rw [hcs]
    exact more p rest hp (pieces_induction sep last more rest)
  · exact last cs h
termination_by cs.length

theorem pieces_append (sep : Char) (cs rest : List Char) :
    pieces sep (cs ++ sep :: rest) = pieces sep cs ++ pieces sep rest := by
  simp only [pieces_eq_splitOn, List.splitOn_append_cons_self]

/-- No piece holds a separator, and no piece holds anything that is not of the text. -/
theorem of_mem_pieces {cs piece : List Char} (h : piece ∈ pieces sep cs) :
    sep ∉ piece ∧ ∀ c ∈ piece, c ∈ cs := by
  induction cs using pieces_induction sep with
  | last p hp =>
    rw [pieces_of_notMem hp, List.mem_singleton] at h
    subst h
    exact ⟨hp, fun c hc => hc⟩
  | more p rest hp ih =>
    rw [pieces_append_cons hp, List.mem_cons] at h
    rcases h with rfl | h
    · exact ⟨hp, fun c hc => by simp [hc]⟩
    · exact ⟨(ih h).1, fun c hc => by simp [(ih h).2 c hc]⟩

theorem head?_pieces (hp : sep ∉ p) (hrest : ∀ c ∈ rest.head?, c = sep) :
    (pieces sep (p ++ rest)).head? = some p := by
  cases rest with
  | nil => rw [List.append_nil, pieces_of_notMem hp, List.head?_cons]
  | cons c rest =>
    obtain rfl : c = sep := hrest c rfl
    rw [pieces_append_cons hp, List.head?_cons]

theorem exists_of_getElem?_pieces {cs : List Char} {i : Nat}
    (h : (pieces sep cs)[i]? = some p) : ∃ before after, cs = before ++ p ++ after ∧
      before.count sep = i ∧ (∀ c ∈ before.getLast?, c = sep) ∧ ∀ c ∈ after.head?, c = sep := by
  induction cs using pieces_induction sep generalizing i with
  | last q hq =>
    rw [pieces_of_notMem hq] at h
    obtain ⟨rfl, rfl⟩ : i = 0 ∧ q = p := by simpa [List.getElem?_singleton] using h
    exact ⟨[], [], by simp⟩
  | more q rest hq ih =>
    rw [pieces_append_cons hq] at h
    cases i with
    | zero =>
      obtain rfl : q = p := by simpa using h
      exact ⟨[], sep :: rest, by simp⟩
    | succ i =>
      rw [List.getElem?_cons_succ] at h
      obtain ⟨before, after, rfl, hcount, hbefore, hafter⟩ := ih h
      refine ⟨q ++ sep :: before, after, by simp, ?_, ?_, hafter⟩
      · rw [List.count_append, List.count_cons_self, List.count_eq_zero_of_not_mem hq, hcount]
        omega
      · cases before with
        | nil => simp
        | cons c before => simpa using hbefore

/-- Piece `i` is the stretch between two separators, or the ends of the text, that has `i`
separators before it. -/
theorem getElem?_pieces {cs : List Char} {i : Nat} :
    (pieces sep cs)[i]? = some p ↔ ∃ before after, cs = before ++ p ++ after ∧
      before.count sep = i ∧ sep ∉ p ∧ (∀ c ∈ before.getLast?, c = sep) ∧
      ∀ c ∈ after.head?, c = sep := by
  refine ⟨fun h => ?_, fun h => ?_⟩
  · have hp := (of_mem_pieces (List.mem_of_getElem? h)).1
    obtain ⟨before, after, hcs, hcount, hbefore, hafter⟩ := exists_of_getElem?_pieces h
    exact ⟨before, after, hcs, hcount, hp, hbefore, hafter⟩
  · obtain ⟨before, after, rfl, rfl, hp, hbefore, hafter⟩ := h
    rw [List.append_assoc]
    rcases List.eq_nil_or_concat before with rfl | ⟨front, c, rfl⟩
    · rw [List.nil_append, List.count_nil, ← List.head?_eq_getElem?]
      exact head?_pieces hp hafter
    · obtain rfl : c = sep := hbefore c (by simp)
      have hlength : (front ++ [c]).count c = (pieces c front).length := by
        rw [length_pieces, List.count_append, List.count_singleton_self]
      rw [List.concat_eq_append, List.append_assoc, List.singleton_append, pieces_append, hlength,
        List.getElem?_append_right (Nat.le_refl _), Nat.sub_self, ← List.head?_eq_getElem?]
      exact head?_pieces hp hafter

end

end ChenDiagram.Text
