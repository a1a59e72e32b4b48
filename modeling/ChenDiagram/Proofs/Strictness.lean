import ChenDiagram.Compile
import ChenDiagram.Proofs.Source.Composition
import Mathlib.Data.Set.Card

/-! When compilation succeeds and what it gives, strict and lenient. Strictness refuses the texts
that have a line of no rule and changes nothing else, and such lines leave no trace in a drawing: a
text without them passes and is drawn alike. -/

namespace ChenDiagram
open Text Source Dot
variable {g : EdgeGrammar} {text : String} {numbers : List Nat} {raw line : List Char}

/-! ## Success and refusal -/

section
variable {o : Options}

theorem compileWith_eq_ok_iff {c : Compiled} : compileWith o text = .ok c ↔
    (o.strict = true → (parse o.grammar text).ignored = []) ∧
      c = ⟨render (parse o.grammar text).diagram o.direction, (parse o.grammar text).ignored⟩ := by
  simp only [compileWith]
  split
  · next first rest hstrict hignored => simp [hstrict, hignored]
  · next ignored hclean =>
    refine ⟨fun h => ⟨fun hstrict => ?_, (Except.ok.inj h).symm⟩, fun h => by rw [h.2]⟩
    cases hignored : (parse o.grammar text).ignored with
    | nil => rfl
    | cons first rest => exact absurd hignored (hclean first rest hstrict)

theorem compileWith_eq_error_iff {e : Error} : compileWith o text = .error e ↔
    o.strict = true ∧ ∃ first rest, (parse o.grammar text).ignored = first :: rest ∧
      e = .unrecognizedLines (rest.length + 1) first.line first.text := by
  simp only [compileWith]
  split
  · next first rest hstrict hignored =>
    refine ⟨fun h => ⟨hstrict, first, rest, hignored, (Except.error.inj h).symm⟩, fun h => ?_⟩
    obtain ⟨-, first', rest', hignored', rfl⟩ := h
    obtain ⟨rfl, rfl⟩ := List.cons.inj (hignored.symm.trans hignored')
    rfl
  · next ignored hclean =>
    refine ⟨nofun, fun h => ?_⟩
    obtain ⟨hstrict, first, rest, hignored, -⟩ := h
    exact absurd hignored (hclean first rest hstrict)

theorem ignored_ne_nil_iff : (parse g text).ignored ≠ [] ↔
    ∃ n raw, LineAt text n raw ∧ Stray g (trim raw) := by
  refine ⟨fun h => ?_, fun h => ?_⟩
  · obtain ⟨i, hi⟩ := List.exists_mem_of_ne_nil _ h
    obtain ⟨raw, hline, hstray, -⟩ := (mem_ignored_parse i).mp hi
    exact ⟨i.line, raw, hline, hstray⟩
  · obtain ⟨n, raw, hline, hstray⟩ := h
    refine List.ne_nil_of_mem (a := ⟨n, String.ofList (trim raw)⟩) ?_
    exact (mem_ignored_parse _).mpr ⟨raw, hline, hstray, rfl⟩

end

/-! ## Foreign lines -/

namespace Source

/-- A line with text in it that is no comment and is in the language of no rule in force. -/
structure Foreign (g : EdgeGrammar) (line : List Char) : Prop where
  ne_nil : line ≠ []
  no_comment : line.head? ≠ some '#'
  no_rule : ∀ r ∈ Rule.active g, ∀ d, ¬ Denotes r line d

/-- The numbers of the foreign lines of a text. -/
def foreignLines (g : EdgeGrammar) (text : String) : Set Nat :=
  {n | ∃ raw, LineAt text n raw ∧ Foreign g (trim raw)}

theorem stray_iff_foreign : Stray g line ↔ Foreign g line :=
  ⟨fun h => ⟨h.ne_nil, h.no_comment, classify_eq_none_iff.mp h.unclassified⟩,
    fun h => ⟨h.ne_nil, h.no_comment, classify_eq_none_iff.mpr h.no_rule⟩⟩

theorem mem_map_line_ignored {n : Nat} :
    n ∈ (parse g text).ignored.map Ignored.line ↔ n ∈ foreignLines g text := by
  simp only [List.mem_map, mem_ignored_parse, stray_iff_foreign]
  refine ⟨fun h => ?_, fun h => ?_⟩
  · obtain ⟨i, ⟨raw, hline, hforeign, -⟩, rfl⟩ := h
    exact ⟨raw, hline, hforeign⟩
  · obtain ⟨raw, hline, hforeign⟩ := h
    exact ⟨⟨n, String.ofList (trim raw)⟩, ⟨raw, hline, hforeign, rfl⟩, rfl⟩

/-- Numbers increase along the list, so that none is counted twice. -/
theorem length_ignored_eq_ncard (g : EdgeGrammar) (text : String) :
    (parse g text).ignored.length = (foreignLines g text).ncard := by
  have hnodup : ((parse g text).ignored.map Ignored.line).Nodup :=
    List.pairwise_map.mpr ((ignored_parse_increasing g text).imp Nat.ne_of_lt)
  have hset : foreignLines g text =
      (((parse g text).ignored.map Ignored.line).toFinset : Set Nat) := by
    ext n
    rw [Finset.mem_coe, List.mem_toFinset, mem_map_line_ignored]
  rw [hset, Set.ncard_coe_finset, List.toFinset_card_of_nodup hnodup, List.length_map]

/-- The list of ignored lines starts with the first foreign line. -/
theorem ignored_eq_cons_iff (first : Ignored) :
    (∃ rest, (parse g text).ignored = first :: rest) ↔
      ∃ raw, LineAt text first.line raw ∧ Foreign g (trim raw) ∧
        (∀ n ∈ foreignLines g text, first.line ≤ n) ∧ first.text = String.ofList (trim raw) := by
  refine ⟨fun h => ?_, fun h => ?_⟩
  · obtain ⟨rest, hrest⟩ := h
    have hmem : first ∈ (parse g text).ignored := hrest ▸ List.mem_cons_self
    obtain ⟨raw, hline, hstray, htext⟩ := (mem_ignored_parse first).mp hmem
    refine ⟨raw, hline, stray_iff_foreign.mp hstray, fun n hn => ?_, htext⟩
    have hincreasing := ignored_parse_increasing g text
    rw [← mem_map_line_ignored, hrest, List.map_cons, List.mem_cons] at hn
    rw [hrest, List.pairwise_cons] at hincreasing
    rcases hn with rfl | hn
    · exact Nat.le_refl _
    · obtain ⟨i, hi, rfl⟩ := List.mem_map.mp hn
      exact Nat.le_of_lt (hincreasing.1 i hi)
  · obtain ⟨raw, hline, hforeign, hfirst, htext⟩ := h
    have hmem : first ∈ (parse g text).ignored :=
      (mem_ignored_parse first).mpr ⟨raw, hline, stray_iff_foreign.mpr hforeign, htext⟩
    have hincreasing := ignored_parse_increasing g text
    cases hignored : (parse g text).ignored with
    | nil =>
      rw [hignored] at hmem
      cases hmem
    | cons i rest =>
      rw [hignored] at hmem hincreasing
      rcases List.mem_cons.mp hmem with rfl | hmem
      · exact ⟨rest, rfl⟩
      · -- a line in front of `first` would have a smaller number
        have hlt := (List.pairwise_cons.mp hincreasing).1 first hmem
        have hi : i.line ∈ foreignLines g text := by
          rw [← mem_map_line_ignored, hignored]
          exact List.mem_cons_self
        exact absurd (hfirst i.line hi) (Nat.not_le_of_lt hlt)

/-! ## Lines taken out -/

/-- The lines of a text that have none of these numbers. -/
def linesBut (numbers : List Nat) (text : String) : List (List Char) :=
  ((pieces '\n' text.toList).zipIdx.filter fun p => p.2 + 1 ∉ numbers).map Prod.fst

/-- A text without the lines of these numbers, each taken out together with a line feed. -/
def without (numbers : List Nat) (text : String) : String :=
  String.ofList (List.intercalate ['\n'] (linesBut numbers text))

theorem mem_linesBut : raw ∈ linesBut numbers text ↔ ∃ n, n ∉ numbers ∧ LineAt text n raw := by
  simp only [linesBut, List.mem_map, List.mem_filter, decide_eq_true_eq]
  refine ⟨fun h => ?_, fun h => ?_⟩
  · obtain ⟨⟨raw, i⟩, ⟨hmem, hi⟩, rfl⟩ := h
    exact ⟨i + 1, hi, lineAt_succ_iff.mpr (List.mk_mem_zipIdx_iff_getElem?.mp hmem)⟩
  · obtain ⟨n, hn, hline⟩ := h
    obtain ⟨i, rfl⟩ := hline.exists_eq_succ
    exact ⟨(raw, i), ⟨List.mk_mem_zipIdx_iff_getElem?.mpr (lineAt_succ_iff.mp hline), hn⟩, rfl⟩

/-- What is left has the lines that are left, or one empty line if there is none. -/
theorem pieces_without (numbers : List Nat) (text : String) :
    pieces '\n' (without numbers text).toList =
      if linesBut numbers text = [] then [[]] else linesBut numbers text := by
  rw [without, String.toList_ofList]
  split
  · next hnil =>
    rw [hnil]
    rfl
  · next hne =>
    rw [pieces_eq_splitOn]
    refine List.splitOn_intercalate '\n' (fun raw hraw => ?_) hne
    obtain ⟨n, -, -, -, -, -, hfree, -⟩ := mem_linesBut.mp hraw
    exact hfree

theorem classify_nil (g : EdgeGrammar) : classify g [] = none := by
  cases g <;> rfl

/-- Lines that declare nothing can be taken out. -/
theorem accepted_without
    (h : ∀ n ∈ numbers, ∀ raw, LineAt text n raw → classify g (trim raw) = none) :
    accepted g (without numbers text) = accepted g text := by
  have hleft : accepted g (without numbers text) =
      (linesBut numbers text).filterMap fun raw => (classify g (trim raw)).map Prod.snd := by
    rw [accepted, pieces_without]
    split
    · next hnil =>
      have hblank : classify g (trim []) = none := classify_nil g
      rw [hnil, List.filterMap_cons, hblank]
      rfl
    · rfl
  rw [hleft, accepted, linesBut, List.filterMap_map, List.filterMap_filter]
  conv_rhs => rw [← List.zipIdx_map_fst 0 (pieces '\n' text.toList), List.filterMap_map]
  refine List.filterMap_congr fun p hp => ?_
  obtain ⟨raw, i⟩ := p
  split
  · rfl
  · next hi =>
    have hnumber : i + 1 ∈ numbers := by simpa using hi
    have hline := lineAt_succ_iff.mpr (List.mk_mem_zipIdx_iff_getElem?.mp hp)
    show none = (classify g (trim raw)).map Prod.snd
    rw [h (i + 1) hnumber raw hline]
    rfl

theorem ignored_without (h : ∀ n ∈ foreignLines g text, n ∈ numbers) :
    (parse g (without numbers text)).ignored = [] := by
  by_contra hne
  obtain ⟨m, raw, hline, hstray⟩ := ignored_ne_nil_iff.mp hne
  have hraw : raw ∈ pieces '\n' (without numbers text).toList :=
    mem_pieces_iff_lineAt.mpr ⟨m, hline⟩
  rw [pieces_without] at hraw
  split at hraw
  · rw [List.mem_singleton.mp hraw] at hstray
    exact hstray.ne_nil rfl
  · obtain ⟨n, hn, hold⟩ := mem_linesBut.mp hraw
    exact hn (h n ⟨raw, hold, stray_iff_foreign.mp hstray⟩)

/-- The ignored lines of a text leave no trace in its diagram. -/
theorem parse_without_ignored (g : EdgeGrammar) (text : String) :
    parse g (without ((parse g text).ignored.map Ignored.line) text) =
      ⟨(parse g text).diagram, []⟩ := by
  rw [Parsed.mk.injEq]
  refine ⟨?_, ignored_without fun n => mem_map_line_ignored.mpr⟩
  rw [diagram_parse, diagram_parse, accepted_without]
  intro n hn raw hline
  obtain ⟨raw', hline', hforeign⟩ := mem_map_line_ignored.mp hn
  rw [hline.unique hline']
  exact (stray_iff_foreign.mpr hforeign).unclassified

end Source

/-! ## Compilation -/

/-- Strictness refuses a text exactly for its foreign lines: the refusal counts them and names the
first of them. Where it does not refuse, nothing is ignored and the result is that of lenient
compilation, which always has one. Without the lines that lenient compilation ignores, a text
passes and is drawn as before. -/
theorem strict_refuses_foreign_lines (g : EdgeGrammar) (direction : Direction) (text : String) :
    let strict := compileWith { grammar := g, direction, strict := true }
    let lenient := compileWith { grammar := g, direction }
    ((∃ e, strict text = .error e) ↔ ∃ n raw, LineAt text n raw ∧ Foreign g (trim raw)) ∧
    (∀ e, strict text = .error e ↔ ∃ n raw, LineAt text n raw ∧ Foreign g (trim raw) ∧
      (∀ m ∈ foreignLines g text, n ≤ m) ∧
      e = .unrecognizedLines (foreignLines g text).ncard n (String.ofList (trim raw))) ∧
    (∀ c, strict text = .ok c ↔ lenient text = .ok c ∧ c.ignored = []) ∧
    ∃ c, lenient text = .ok c ∧
      strict (without (c.ignored.map Ignored.line) text) = .ok { dot := c.dot, ignored := [] } := by
  intro strict lenient
  have hrefused : ∀ e, strict text = .error e ↔ ∃ first rest,
      (parse g text).ignored = first :: rest ∧
        e = .unrecognizedLines (foreignLines g text).ncard first.line first.text := by
    intro e
    rw [compileWith_eq_error_iff, and_iff_right rfl]
    refine exists₂_congr fun first rest => and_congr_right fun hignored => ?_
    rw [← length_ignored_eq_ncard, hignored, List.length_cons]
  refine ⟨?_, fun e => ?_, fun c => ?_, ?_⟩
  · simp only [hrefused, ← stray_iff_foreign]
    rw [← ignored_ne_nil_iff, List.ne_nil_iff_exists_cons]
    refine ⟨fun h => ?_, fun h => ?_⟩
    · obtain ⟨e, first, rest, hignored, -⟩ := h
      exact ⟨first, rest, hignored⟩
    · obtain ⟨first, rest, hignored⟩ := h
      exact ⟨_, first, rest, hignored, rfl⟩
  · rw [hrefused]
    refine ⟨fun h => ?_, fun h => ?_⟩
    · obtain ⟨first, rest, hignored, rfl⟩ := h
      obtain ⟨raw, hline, hforeign, hleast, htext⟩ :=
        (ignored_eq_cons_iff first).mp ⟨rest, hignored⟩
      exact ⟨first.line, raw, hline, hforeign, hleast, by rw [htext]⟩
    · obtain ⟨n, raw, hline, hforeign, hleast, rfl⟩ := h
      obtain ⟨rest, hignored⟩ := (ignored_eq_cons_iff ⟨n, String.ofList (trim raw)⟩).mpr
        ⟨raw, hline, hforeign, hleast, rfl⟩
      exact ⟨_, rest, hignored, rfl⟩
  · rw [compileWith_eq_ok_iff, compileWith_eq_ok_iff]
    refine ⟨fun h => ?_, fun h => ?_⟩
    · obtain ⟨hclean, rfl⟩ := h
      exact ⟨⟨nofun, rfl⟩, hclean rfl⟩
    · obtain ⟨⟨-, rfl⟩, hclean⟩ := h
      exact ⟨fun _ => hclean, rfl⟩
  · refine ⟨_, compileWith_eq_ok_iff.mpr ⟨nofun, rfl⟩, compileWith_eq_ok_iff.mpr ?_⟩
    rw [parse_without_ignored]
    exact ⟨fun _ => rfl, rfl⟩

/-- Taking out the second and the fourth line. -/
example : Source.without [2, 4] "entity A\n?\nentity B\n\t!" = "entity A\nentity B" := by
  decide +kernel

end ChenDiagram
