import ChenDiagram.Proofs.Source.Classify
import ChenDiagram.Compile

/-! From rules to texts. A line of any rule begins with a name or a keyword and ends with no white
space, so it is never blank, never a comment and already trimmed; what a text declares is then what
its trimmed lines denote. -/

namespace ChenDiagram.Source
open Text
variable {line raw : List Char} {r : Rule} {d : Declaration} {g : EdgeGrammar}

/-! ## Both ends of a line -/

theorem isWordChar_of_isHexDigit {c : Char} (h : isHexDigit c = true) : isWordChar c = true := by
  unfold isHexDigit Char.isDigit at h
  simp only [Bool.or_eq_true, Bool.and_eq_true, decide_eq_true_eq, ge_iff_le, Char.le_def,
    UInt32.le_iff_toNat_le] at h
  change ((0x30 ≤ c.toNat ∧ c.toNat ≤ 0x39) ∨ (0x61 ≤ c.toNat ∧ c.toNat ≤ 0x66)) ∨
    (0x41 ≤ c.toNat ∧ c.toNat ≤ 0x46) at h
  have halnum : c.isAlphanum = true := by
    rw [isAlphanum_iff]
    omega
  simp [isWordChar, halnum]

/-- The first character belongs to a word and the last is no white space. -/
structure Tight (line : List Char) : Prop where
  ne_nil : line ≠ []
  first : Stops (fun c => !isWordChar c) line
  last : Stops isSpace line.reverse

theorem IsName.tight {w : List Char} (hw : IsName w) : Tight w where
  ne_nil := hw.1
  first := stops_of_forall fun c hc => by simp [hw.2 c hc]
  last := stops_of_forall fun c hc =>
    isSpace_eq_false_of_isWordChar (hw.2 c (List.mem_reverse.mp hc))

theorem tight_append {a c : List Char} (ha : IsName a) (b : List Char) (hc : c ≠ [])
    (h : Stops isSpace c.reverse) : Tight (a ++ (b ++ c)) where
  ne_nil := by simp [ha.1]
  first := ha.tight.first.append ha.1
  last := by
    rw [List.reverse_append, List.reverse_append, List.append_assoc]
    exact h.append (by simpa using hc)

theorem Denotes.tight (h : Denotes r line d) : Tight line := by
  cases h with
  | @color channel z₁ z₂ digits _ _ hdigits hlen =>
    have hne : digits ≠ [] := by
      intro he
      rw [he] at hlen
      simp at hlen
    have hlast : Stops isSpace digits.reverse := stops_of_forall fun c hc =>
      isSpace_eq_false_of_isWordChar
        (isWordChar_of_isHexDigit (hdigits c (List.mem_reverse.mp hc)))
    simpa using tight_append (isName_channelWord channel) (z₁ ++ ':' :: z₂ ++ ['#']) hne hlast
  | @isa b w z body _ _ _ _ _ =>
    simpa using tight_append isName_isa (b ++ w ++ z ++ '\x7b' :: body)
      (List.cons_ne_nil '\x7d' []) (stops_cons.mpr (by decide))
  | @weakEntity b₁ b₂ w _ _ hw =>
    simpa using tight_append isName_weak (b₁ ++ "entity".toList ++ b₂) hw.1
      hw.tight.last
  | @entity b w _ hw =>
    simpa using tight_append isName_entity b hw.1 hw.tight.last
  | @identifyingRelationship b₁ b₂ w _ _ hw =>
    simpa using tight_append isName_identifying (b₁ ++ "relationship".toList ++ b₂) hw.1
      hw.tight.last
  | @relationship b w _ hw =>
    simpa using tight_append isName_relationship b hw.1 hw.tight.last
  | @composite b₁ owner b₂ name z body _ _ _ _ _ _ _ =>
    simpa using tight_append isName_composite
      (b₁ ++ owner ++ b₂ ++ name ++ z ++ '\x7b' :: body) (List.cons_ne_nil '\x7d' [])
      (stops_cons.mpr (by decide))
  | @plainAttribute b₁ owner b₂ name _ _ _ hname =>
    simpa using tight_append isName_attribute (b₁ ++ owner ++ b₂) hname.1
      hname.tight.last
  | @markedAttribute b₁ owner b₂ name b₃ mark _ _ _ _ _ _ hmark =>
    have hkey := isName_kindMark hmark
    simpa using tight_append isName_attribute (b₁ ++ owner ++ b₂ ++ name ++ b₃) hkey.1
      hkey.tight.last
  | @edge r b₁ v b₂ b₃ b₄ b₅ b₆ b₇ w c₁ c₂ p₁ p₂ hr _ _ _ _ _ _ _ _ hw =>
    simpa using tight_append hr (b₁ ++ v ++ b₂ ++ (cardinalityMark c₁).toList ++ b₃ ++
      p₁.keyword.toList ++ b₄ ++ "--".toList ++ b₅ ++ (cardinalityMark c₂).toList ++ b₆ ++
      p₂.keyword.toList ++ b₇) hw.1 hw.tight.last
  | @simplifiedEdge v b₁ b₂ b₃ b₄ w c₁ c₂ hv _ _ _ _ hw =>
    simpa using tight_append hv (b₁ ++ (cardinalityMark c₁).toList ++ b₂ ++ "--".toList ++ b₃ ++
      (cardinalityMark c₂).toList ++ b₄) hw.1 hw.tight.last

theorem Tight.trim_eq (h : Tight line) : trim line = line := by
  refine strip_eq_self ?_ h.last
  obtain ⟨hne, hfirst, -⟩ := h
  cases line with
  | nil => exact stops_nil
  | cons c line =>
    have hc : isWordChar c = true := by simpa using hfirst
    exact stops_cons.mpr (isSpace_eq_false_of_isWordChar hc)

/-! ## Reading lines -/

/-- A line is declared exactly if it is classified: what the rules accept is never taken for a
blank line or a comment. -/
theorem read_eq_declared_iff :
    Line.read g raw = .declared r d ↔ classify g (trim raw) = some (r, d) := by
  unfold Line.read
  constructor
  · intro h
    split at h
    · cases h
    · cases h
    · split at h
      · next hfound =>
        cases h
        exact hfound
      · cases h
  · intro h
    have htight : Tight (trim raw) := (denotes_of_classify h).2.tight
    split
    · next hline => exact absurd hline htight.ne_nil
    · next hline =>
      have hfirst := htight.first
      rw [hline, stops_cons] at hfirst
      exact absurd hfirst (by decide)
    · rw [h]

theorem read_eq_blank_iff : Line.read g raw = .blank ↔ trim raw = [] := by
  unfold Line.read
  split
  · next hline => simp [hline]
  · next hline => simp [hline]
  · next hne _ => split <;> simpa using hne

theorem read_eq_comment_iff : Line.read g raw = .comment ↔ (trim raw).head? = some '#' := by
  unfold Line.read
  split
  · next hline => simp [hline]
  · next hline => simp [hline]
  · next hne =>
    have hhead : (trim raw).head? ≠ some '#' := by
      intro hhash
      obtain ⟨rest, hrest⟩ := List.head?_eq_some_iff.mp hhash
      exact hne rest hrest
    split <;> simpa using hhead

/-- A line with text in it that is no comment and that no rule in force accepts. -/
structure Stray (g : EdgeGrammar) (line : List Char) : Prop where
  ne_nil : line ≠ []
  no_comment : line.head? ≠ some '#'
  unclassified : classify g line = none

theorem read_eq_unrecognized_iff {t : String} :
    Line.read g raw = .unrecognized t ↔ Stray g (trim raw) ∧ t = String.ofList (trim raw) := by
  refine ⟨fun h => ?_, fun h => ?_⟩
  · have hblank : trim raw ≠ [] := fun hnil => by
      rw [read_eq_blank_iff.mpr hnil] at h
      cases h
    have hcomment : (trim raw).head? ≠ some '#' := fun hhash => by
      rw [read_eq_comment_iff.mpr hhash] at h
      cases h
    have hnone : classify g (trim raw) = none := by
      refine Option.eq_none_iff_forall_ne_some.mpr fun found hfound => ?_
      rw [read_eq_declared_iff.mpr hfound] at h
      cases h
    refine ⟨⟨hblank, hcomment, hnone⟩, ?_⟩
    unfold Line.read at h
    split at h
    · cases h
    · cases h
    · rw [hnone] at h
      cases h
      rfl
  · obtain ⟨⟨hblank, hcomment, hnone⟩, rfl⟩ := h
    unfold Line.read
    split
    · next hline => exact absurd hline hblank
    · next hline => exact absurd (by rw [hline]; rfl) hcomment
    · rw [hnone]

/-- What a line declares, if it declares anything. -/
def Line.declaration? : Line → Option Declaration
  | .declared _ d => some d
  | _ => none

/-- Declarations are taken line by line, and the numbers of the lines do not matter. -/
theorem declarations_readLines (g : EdgeGrammar) (text : String) :
    declarations (readLines g text) =
      (pieces '\n' text.toList).filterMap fun raw => (Line.read g raw).declaration? := by
  have hpick : ∀ (n : Nat) (raws : List (List Char)),
      declarations ((raws.zipIdx n).map fun p => (p.2 + 1, Line.read g p.1)) =
        raws.filterMap fun raw => (Line.read g raw).declaration? := by
    intro n raws
    induction raws generalizing n with
    | nil => rfl
    | cons raw raws ih =>
      rw [List.zipIdx_cons, List.map_cons, List.filterMap_cons, ← ih (n + 1)]
      cases Line.read g raw <;> simp [declarations, Line.declaration?]
  exact hpick 0 _

theorem ignoredLines_readLines_eq_nil {text : String}
    (h : ∀ raw ∈ pieces '\n' text.toList, ∀ t, Line.read g raw ≠ .unrecognized t) :
    ignoredLines (readLines g text) = [] := by
  refine List.filterMap_eq_nil_iff.mpr fun numbered hmem => ?_
  obtain ⟨⟨raw, i⟩, hraw, rfl⟩ := List.mem_map.mp hmem
  have hpiece := h raw (List.fst_mem_of_mem_zipIdx hraw)
  cases hread : Line.read g raw <;> simp_all

theorem mem_declarations_parse {text : String} :
    d ∈ declarations (readLines g text) ↔
      ∃ raw ∈ pieces '\n' text.toList, ∃ r, classify g (trim raw) = some (r, d) := by
  rw [declarations_readLines, List.mem_filterMap]
  refine exists_congr fun raw => and_congr_right fun _ => ?_
  simp only [← read_eq_declared_iff]
  cases Line.read g raw <;> simp [Line.declaration?]

end ChenDiagram.Source
