import ChenDiagram.Compile
import ChenDiagram.Proofs.Source.Numbering

/-! What surrounds a line. A text may be indented, may have white space behind its lines and may end
them with carriage returns, and is read as if it did not: every line is trimmed, so a margin is
seen neither by the rules nor in what is told of ignored lines. For the same reason it does not
matter whether a text is cut at its line feeds or into lines that have an end of their own. -/

namespace ChenDiagram
open Text Source

namespace Source
variable {g : EdgeGrammar} {left right : Nat → List Char} {a b raw : List Char}

/-! ## Margins -/

/-- White space that stays within its line. -/
def IsMargin (cs : List Char) : Prop := ∀ c ∈ cs, isSpace c = true ∧ c ≠ '\n'

/-- The text with further white space on both sides of its lines, which are counted from zero. -/
def padLines (left right : Nat → List Char) (text : String) : String :=
  String.ofList (List.intercalate ['\n']
    ((pieces '\n' text.toList).mapIdx fun i raw => left i ++ raw ++ right i))

theorem IsMargin.isSpace (h : IsMargin a) : ∀ c ∈ a, isSpace c = true := fun c hc => (h c hc).1

theorem IsMargin.lineFeed_notMem (h : IsMargin a) : '\n' ∉ a := fun hmem => (h _ hmem).2 rfl

theorem read_pad (ha : ∀ c ∈ a, isSpace c = true) (hb : ∀ c ∈ b, isSpace c = true) :
    Line.read g (a ++ raw ++ b) = Line.read g raw := by
  have htrim : trim (a ++ raw ++ b) = trim raw := strip_pad ha hb raw
  unfold Line.read
  rw [htrim]

/-- Margins do not make lines or join them. -/
theorem pieces_padLines (hleft : ∀ i, IsMargin (left i)) (hright : ∀ i, IsMargin (right i))
    (text : String) : pieces '\n' (padLines left right text).toList =
      (pieces '\n' text.toList).mapIdx fun i raw => left i ++ raw ++ right i := by
  have hne : (pieces '\n' text.toList).mapIdx (fun i raw => left i ++ raw ++ right i) ≠ [] :=
    List.mapIdx_ne_nil_iff.mpr (pieces_ne_nil _ _)
  rw [padLines, String.toList_ofList, pieces_eq_splitOn '\n' (List.intercalate _ _)]
  refine List.splitOn_intercalate '\n' (fun line hline => ?_) hne
  obtain ⟨i, hi, rfl⟩ := List.mem_mapIdx.mp hline
  have hraw := (of_mem_pieces (List.getElem_mem hi)).1
  simp only [List.mem_append, not_or]
  exact ⟨⟨(hleft i).lineFeed_notMem, hraw⟩, (hright i).lineFeed_notMem⟩

/-! ## Lines by number -/

/-- The readings of some lines, numbered from one. -/
def numbered (g : EdgeGrammar) (raws : List (List Char)) : List (Nat × Line) :=
  raws.zipIdx.map fun (raw, i) => (i + 1, Line.read g raw)

theorem readLines_eq (g : EdgeGrammar) (text : String) :
    readLines g text = numbered g (pieces '\n' text.toList) := rfl

theorem numbered_congr {raws raws' : List (List Char)}
    (h : raws.map (Line.read g) = raws'.map (Line.read g)) : numbered g raws = numbered g raws' := by
  have hnumbered : ∀ raws, numbered g raws =
      (raws.map (Line.read g)).zipIdx.map fun (line, i) => (i + 1, line) := by
    intro raws
    rw [List.zipIdx_map, List.map_map]
    rfl
  rw [hnumbered, hnumbered, h]

theorem readLines_padLines (hleft : ∀ i, IsMargin (left i)) (hright : ∀ i, IsMargin (right i))
    (g : EdgeGrammar) (text : String) :
    readLines g (padLines left right text) = readLines g text := by
  rw [readLines_eq, readLines_eq, pieces_padLines hleft hright]
  refine numbered_congr (List.ext_getElem? fun i => ?_)
  rw [List.getElem?_map, List.getElem?_map, List.getElem?_mapIdx, Option.map_map]
  refine congrArg (fun f => Option.map f _) (funext fun raw => ?_)
  exact read_pad (hleft i).isSpace (hright i).isSpace

/-! ## Lines with an end of their own -/

/-- A line without the carriage return that belongs to its end. -/
def dropReturn (raw : List Char) : List Char :=
  if raw.getLast? = some '\r' then raw.dropLast else raw

/-- The lines of a text, where a line is ended by a line feed or by a carriage return and a line
feed. The last line may go without an end, unless it is empty. -/
def endedLines (text : String) : List (List Char) :=
  let raws := pieces '\n' text.toList
  raws.dropLast.map dropReturn ++ raws.getLast?.toList.filter (!·.isEmpty)

theorem read_dropReturn (g : EdgeGrammar) (raw : List Char) :
    Line.read g (dropReturn raw) = Line.read g raw := by
  unfold dropReturn
  split
  · next hreturn =>
    obtain ⟨front, rfl⟩ := List.getLast?_eq_some_iff.mp hreturn
    rw [List.dropLast_concat]
    exact (read_pad (a := []) (b := ['\r']) (by simp)
      (List.forall_mem_singleton.mpr (by decide))).symm
  · rfl

theorem ofLines_numbered_concat_nil (g : EdgeGrammar) (raws : List (List Char)) :
    Parsed.ofLines (numbered g (raws ++ [[]])) = Parsed.ofLines (numbered g raws) := by
  have hblank : numbered g (raws ++ [[]]) = numbered g raws ++ [(raws.length + 1, .blank)] := by
    rw [numbered, List.zipIdx_append, List.map_append, Nat.zero_add]
    rfl
  simp [hblank, Parsed.ofLines, declarations, ignoredLines]

/-- An empty last line and the carriage returns at the ends of the others leave no trace. -/
theorem ofLines_endedLines (g : EdgeGrammar) (text : String) :
    Parsed.ofLines (numbered g (endedLines text)) = parse g text := by
  obtain ⟨front, last, hpieces⟩ :=
    (List.eq_nil_or_concat _).resolve_left (pieces_ne_nil '\n' text.toList)
  rw [List.concat_eq_append] at hpieces
  have hreturns : numbered g (front.map dropReturn ++ [last]) = numbered g (front ++ [last]) := by
    refine numbered_congr ?_
    rw [List.map_append, List.map_append, List.map_map]
    exact congrArg (· ++ _) (List.map_congr_left fun raw _ => read_dropReturn g raw)
  have hended : endedLines text =
      front.map dropReturn ++ if last = [] then [] else [last] := by
    simp only [endedLines, hpieces, List.dropLast_concat, List.getLast?_concat, Option.toList_some]
    cases last <;> simp
  show _ = Parsed.ofLines (numbered g (pieces '\n' text.toList))
  rw [hended, hpieces, ← hreturns]
  split
  · next hempty => rw [hempty, List.append_nil, ofLines_numbered_concat_nil]
  · rfl

end Source

/-- Line ends and indentation never matter. White space put around the lines of a text, the line
feeds between them apart, leaves the diagram, the ignored lines and the result of compilation as
they were, and this also where lines are told by their ends. -/
theorem parse_padLines (text : String) (left right : Nat → List Char)
    (hleft : ∀ i, IsMargin (left i)) (hright : ∀ i, IsMargin (right i)) :
    let padded := padLines left right text
    (∀ g, parse g padded = parse g text ∧
      Parsed.ofLines (numbered g (endedLines padded)) = parse g text) ∧
    ∀ o, compileWith o padded = compileWith o text := by
  intro padded
  have hparse : ∀ g, parse g padded = parse g text := fun g =>
    congrArg Parsed.ofLines (readLines_padLines hleft hright g text)
  refine ⟨fun g => ⟨hparse g, (ofLines_endedLines g padded).trans (hparse g)⟩, fun o => ?_⟩
  unfold compileWith
  rw [hparse]

/-- Carriage returns at all line ends, the last line included, and a margin of tabs and hard spaces
on all lines but the first. -/
theorem parse_padLines_returns :
    let left : Nat → List Char := fun i => if i = 0 then [] else ['\t', '\u00a0']
    let right : Nat → List Char := fun _ => ['\r']
    (∀ i, IsMargin (left i)) ∧ (∀ i, IsMargin (right i)) ∧
      padLines left right "entity A\n? \n" = "entity A\r\n\t\u00a0? \r\n\t\u00a0\r" ∧
      parse .full "entity A\r\n\t\u00a0? \r\n\t\u00a0\r" = parse .full "entity A\n? \n" ∧
      parse .full "entity A\n? \n" =
        ⟨{ entities := ⟨[("A", ⟨"A", false⟩)]⟩ }, [⟨2, "?"⟩]⟩ := by
  intro left right
  have hleft : ∀ i, IsMargin (left i) := by
    intro i
    show ∀ c ∈ (if i = 0 then [] else ['\t', '\u00a0']), _
    split
    · exact List.forall_mem_nil _
    · exact List.forall_mem_cons.mpr ⟨by decide, List.forall_mem_singleton.mpr (by decide)⟩
  have hright : ∀ i, IsMargin (right i) := fun _ => List.forall_mem_singleton.mpr (by decide)
  have hpadded : padLines left right "entity A\n? \n" =
      "entity A\r\n\t\u00a0? \r\n\t\u00a0\r" := by decide +kernel
  refine ⟨hleft, hright, hpadded, ?_, by decide +kernel⟩
  rw [← hpadded]
  exact ((parse_padLines _ left right hleft hright).1 .full).1

end ChenDiagram
