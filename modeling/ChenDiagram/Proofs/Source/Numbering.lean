import ChenDiagram.Proofs.Source.Lines

/-! The lines of a text and their numbers. `LineAt` says where a line stands without saying how a
text is cut, and reading gives every line its own number, in increasing order. A text put in front
of another moves the numbers of the latter by its own count of lines. -/

namespace ChenDiagram.Source
open Text
variable {g : EdgeGrammar} {text : String} {n : Nat} {raw : List Char}

/-- Line `n` of a text: a stretch without line feeds that begins with the text or after a line feed,
ends with the text or before one, and has `n - 1` line feeds before it. -/
def LineAt (text : String) (n : Nat) (raw : List Char) : Prop :=
  ∃ before after, text.toList = before ++ raw ++ after ∧ before.count '\n' + 1 = n ∧ '\n' ∉ raw ∧
    (∀ c ∈ before.getLast?, c = '\n') ∧ ∀ c ∈ after.head?, c = '\n'

theorem lineAt_succ_iff {i : Nat} :
    LineAt text (i + 1) raw ↔ (pieces '\n' text.toList)[i]? = some raw := by
  unfold LineAt
  rw [getElem?_pieces]
  simp only [Nat.add_right_cancel_iff]

theorem LineAt.exists_eq_succ (h : LineAt text n raw) : ∃ i, n = i + 1 := by
  obtain ⟨before, after, -, hn, -⟩ := h
  exact ⟨before.count '\n', hn.symm⟩

theorem LineAt.unique {raw' : List Char} (h : LineAt text n raw) (h' : LineAt text n raw') :
    raw = raw' := by
  obtain ⟨i, rfl⟩ := h.exists_eq_succ
  rw [lineAt_succ_iff] at h h'
  exact Option.some.inj (h.symm.trans h')

theorem mem_pieces_iff_lineAt : raw ∈ pieces '\n' text.toList ↔ ∃ n, LineAt text n raw := by
  refine ⟨fun h => ?_, fun h => ?_⟩
  · obtain ⟨i, hi⟩ := List.mem_iff_getElem?.mp h
    exact ⟨i + 1, lineAt_succ_iff.mpr hi⟩
  · obtain ⟨n, hn⟩ := h
    obtain ⟨i, rfl⟩ := hn.exists_eq_succ
    exact List.mem_of_getElem? (lineAt_succ_iff.mp hn)

/-- Every line is read once, under its own number. -/
theorem mem_readLines {l : Line} :
    (n, l) ∈ readLines g text ↔ ∃ raw, LineAt text n raw ∧ Line.read g raw = l := by
  unfold readLines
  rw [List.mem_map]
  refine ⟨fun h => ?_, fun h => ?_⟩
  · obtain ⟨⟨raw, i⟩, hmem, he⟩ := h
    cases he
    exact ⟨raw, lineAt_succ_iff.mpr (List.mk_mem_zipIdx_iff_getElem?.mp hmem), rfl⟩
  · obtain ⟨raw, hline, rfl⟩ := h
    obtain ⟨i, rfl⟩ := hline.exists_eq_succ
    exact ⟨(raw, i), List.mk_mem_zipIdx_iff_getElem?.mpr (lineAt_succ_iff.mp hline), rfl⟩

theorem readLines_increasing (g : EdgeGrammar) (text : String) :
    (readLines g text).Pairwise fun l l' => l.1 < l'.1 := by
  have hindex : (pieces '\n' text.toList).zipIdx.Pairwise fun p p' => p.2 < p'.2 := by
    rw [← List.pairwise_map, List.zipIdx_map_snd]
    exact List.pairwise_lt_range' 1
  exact hindex.map _ fun p p' h => Nat.add_lt_add_right h 1

theorem denotes_of_mem_readLines {r : Rule} {d : Declaration}
    (h : (n, .declared r d) ∈ readLines g text) : ∃ line, Denotes r line d := by
  obtain ⟨raw, -, hread⟩ := mem_readLines.mp h
  exact ⟨trim raw, (denotes_of_classify (read_eq_declared_iff.mp hread)).2⟩

/-! ## Ignored lines -/

theorem mem_ignoredLines {lines : List (Nat × Line)} {i : Ignored} :
    i ∈ ignoredLines lines ↔ (i.line, .unrecognized i.text) ∈ lines := by
  unfold ignoredLines
  rw [List.mem_filterMap]
  refine ⟨fun h => ?_, fun h => ⟨_, h, rfl⟩⟩
  obtain ⟨⟨n, line⟩, hmem, hline⟩ := h
  cases line with
  | unrecognized t => cases hline; exact hmem
  | _ => cases hline

theorem mem_ignored_parse (i : Ignored) : i ∈ (parse g text).ignored ↔
    ∃ raw, LineAt text i.line raw ∧ Stray g (trim raw) ∧ i.text = String.ofList (trim raw) := by
  show i ∈ ignoredLines (readLines g text) ↔ _
  rw [mem_ignoredLines, mem_readLines]
  simp only [read_eq_unrecognized_iff]

/-- Ignored lines are listed in the order of the text, each of them once. -/
theorem ignored_parse_increasing (g : EdgeGrammar) (text : String) :
    (parse g text).ignored.Pairwise fun i j => i.line < j.line := by
  refine (readLines_increasing g text).filterMap _ fun l l' hlt i hi j hj => ?_
  obtain ⟨n, line⟩ := l
  obtain ⟨n', line'⟩ := l'
  cases line <;> cases hi
  cases line' <;> cases hj
  exact hlt

/-! ## Texts one after the other -/

theorem pieces_join (a b : String) :
    pieces '\n' (a ++ "\n" ++ b).toList = pieces '\n' a.toList ++ pieces '\n' b.toList := by
  rw [← pieces_append]
  congr 1
  simp

theorem readLines_join (g : EdgeGrammar) (a b : String) :
    readLines g (a ++ "\n" ++ b) =
      readLines g a ++ (readLines g b).map fun l => (l.1 + (1 + a.toList.count '\n'), l.2) := by
  unfold readLines
  rw [pieces_join, List.zipIdx_append, List.map_append, length_pieces, Nat.zero_add,
    List.zipIdx_eq_map_add (i := a.toList.count '\n' + 1), List.map_map, List.map_map]
  refine congrArg _ (List.map_congr_left fun p _ => ?_)
  have hnumber : a.toList.count '\n' + 1 + p.2 + 1 = p.2 + 1 + (1 + a.toList.count '\n') := by omega
  exact Prod.ext hnumber rfl

theorem ignoredLines_append (lines lines' : List (Nat × Line)) :
    ignoredLines (lines ++ lines') = ignoredLines lines ++ ignoredLines lines' :=
  List.filterMap_append

theorem ignoredLines_map_add (k : Nat) (lines : List (Nat × Line)) :
    ignoredLines (lines.map fun l => (l.1 + k, l.2)) =
      (ignoredLines lines).map fun i => { i with line := i.line + k } := by
  unfold ignoredLines
  rw [List.filterMap_map, List.map_filterMap]
  refine congrArg (List.filterMap · lines) (funext fun l => ?_)
  obtain ⟨n, line⟩ := l
  cases line <;> rfl

end ChenDiagram.Source
