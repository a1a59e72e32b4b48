import ChenDiagram.Proofs.Source.Acceptance

/-! Every keyword of the notation is also a legal name, yet no line belongs to two rules. A line
opens with words, and how many there are, what the first of them is and which character ends them
already tells the rule. So the order in which rules are tried does not matter, and the first rule
that accepts a line is the only one. -/

namespace ChenDiagram.Source
open Text Scanner
variable {w b z rest line : List Char}

/-! ## The opening of a line -/

def isFront (c : Char) : Bool := isWordChar c || isBlank c

/-- The words that a line opens with, and the character that follows them. -/
def opening (line : List Char) : List (List Char) × Option Char :=
  (((line.takeWhile isFront).splitOnP isBlank).filter (!·.isEmpty), (line.dropWhile isFront).head?)

theorem IsName.isFront (hw : IsName w) : ∀ c ∈ w, isFront c = true := fun c hc => by
  simp [Source.isFront, hw.2 c hc]

theorem IsGap.isFront (hz : IsGap z) : ∀ c ∈ z, isFront c = true := fun c hc => by
  simp [Source.isFront, hz c hc]

theorem opening_of_stops (h : Stops isFront rest) : opening rest = ([], rest.head?) := by
  rw [opening, takeWhile_eq_nil_of_stops h, dropWhile_eq_self_of_stops h]
  simp

theorem opening_gap_append (hz : IsGap z) (rest : List Char) :
    opening (z ++ rest) = opening rest := by
  induction z with
  | nil => rfl
  | cons c z ih =>
    have hc : isBlank c = true := hz c (by simp)
    have hfront : isFront c = true := hz.isFront c (by simp)
    rw [← ih fun x hx => hz x (by simp [hx])]
    simp [opening, hfront, List.splitOnP_cons_eq_if_modifyHead, hc]

/-- A name that is cut off by a blank is the first word. -/
theorem opening_name_break (hw : IsName w) (hb : IsBreak b) (rest : List Char) :
    opening (w ++ (b ++ rest)) = (w :: (opening rest).1, (opening rest).2) := by
  obtain ⟨hne, hgap⟩ := hb
  cases b with
  | nil => exact absurd rfl hne
  | cons c b =>
    have hblank : isBlank c = true := hgap c (by simp)
    have hfront : isFront c = true := hgap.isFront c (by simp)
    have hword : ∀ x ∈ w, isBlank x = false := fun x hx =>
      isBlank_eq_false_of_isWordChar (hw.2 x hx)
    have htail : IsGap b := fun x hx => hgap x (by simp [hx])
    rw [← opening_gap_append htail rest]
    simp [opening, List.takeWhile_append_of_pos hw.isFront, List.dropWhile_append_of_pos hw.isFront,
      hfront, List.splitOnP_append_cons_of_forall_mem hword c hblank, hw.1]

/-- The last word of the opening, perhaps with blanks after it. -/
theorem opening_name_gap (hw : IsName w) (hz : IsGap z) (h : Stops isFront rest) :
    opening (w ++ (z ++ rest)) = ([w], rest.head?) := by
  cases z with
  | nil =>
    have hword : ∀ x ∈ w, isBlank x = false := fun x hx =>
      isBlank_eq_false_of_isWordChar (hw.2 x hx)
    rw [List.nil_append, opening, takeWhile_append_of_stops hw.isFront h,
      dropWhile_append_of_stops hw.isFront h, List.splitOnP_eq_singleton hword]
    simp [hw.1]
  | cons c z => rw [opening_name_break hw ⟨by simp, hz⟩, opening_of_stops h]

theorem opening_name (hw : IsName w) : opening w = ([w], none) := by
  have h := opening_name_gap hw (z := []) (by simp [IsGap]) stops_nil
  simpa using h

theorem opening_cons (rest : List Char) {c : Char} (hc : isFront c = false) :
    opening (c :: rest) = ([], some c) :=
  opening_of_stops (stops_cons.mpr hc)

theorem opening_cardinality (c : Cardinality) (rest : List Char) :
    opening ((cardinalityMark c).toList ++ rest) = ([], some '(') := by
  cases c <;> exact opening_cons _ (by decide)

/-! ## One rule for each opening -/

/-- The only rule that a line with this opening can belong to. -/
def ruleOf : List (List Char) × Option Char → Option Rule
  | (_, some ':') => some .color
  | ([_], some '(') => some .simplifiedEdge
  | ([_, _], some '(') => some .edge
  | ([_, _], some '\x7b') => some .isa
  | ([_, _, _], some '\x7b') => some .composite
  | (first :: _, none) =>
    [Rule.weakEntity, .entity, .identifyingRelationship, .relationship, .attribute].find? fun r =>
      first = r.label.toList.takeWhile isWordChar
  | _ => none

/-- A line of a rule has an opening of that rule. -/
theorem Denotes.ruleOf_opening {r : Rule} {d : Declaration} (h : Denotes r line d) :
    ruleOf (opening line) = some r := by
  cases h with
  | @color channel z₁ _ _ hz₁ =>
    simp only [List.append_assoc, List.cons_append]
    rw [opening_name_gap (isName_channelWord channel) hz₁ (stops_cons.mpr (by decide))]
    rfl
  | isa hb hw hz _ =>
    simp only [List.append_assoc, List.cons_append]
    rw [opening_name_break isName_isa hb,
      opening_name_gap hw hz (stops_cons.mpr (by decide))]
    rfl
  | weakEntity hb₁ hb₂ hw =>
    simp only [List.append_assoc]
    rw [opening_name_break isName_weak hb₁,
      opening_name_break isName_entity hb₂, opening_name hw]
    rfl
  | entity hb hw =>
    simp only [List.append_assoc]
    rw [opening_name_break isName_entity hb, opening_name hw]
    rfl
  | identifyingRelationship hb₁ hb₂ hw =>
    simp only [List.append_assoc]
    rw [opening_name_break isName_identifying hb₁,
      opening_name_break isName_relationship hb₂, opening_name hw]
    rfl
  | relationship hb hw =>
    simp only [List.append_assoc]
    rw [opening_name_break isName_relationship hb, opening_name hw]
    rfl
  | composite hb₁ howner hb₂ hname hz _ =>
    simp only [List.append_assoc, List.cons_append]
    rw [opening_name_break isName_composite hb₁, opening_name_break howner hb₂,
      opening_name_gap hname hz (stops_cons.mpr (by decide))]
    rfl
  | plainAttribute hb₁ howner hb₂ hname =>
    simp only [List.append_assoc]
    rw [opening_name_break isName_attribute hb₁, opening_name_break howner hb₂,
      opening_name hname]
    rfl
  | markedAttribute hb₁ howner hb₂ hname hb₃ hmark =>
    simp only [List.append_assoc]
    rw [opening_name_break isName_attribute hb₁, opening_name_break howner hb₂,
      opening_name_break hname hb₃, opening_name (isName_kindMark hmark)]
    rfl
  | edge hr hb₁ hv hb₂ =>
    simp only [List.append_assoc]
    rw [opening_name_break hr hb₁, opening_name_break hv hb₂, opening_cardinality]
    rfl
  | simplifiedEdge hv hb₁ =>
    simp only [List.append_assoc]
    rw [opening_name_break hv hb₁, opening_cardinality]
    rfl

theorem Denotes.rule_unique {r r' : Rule} {d d' : Declaration} (h : Denotes r line d)
    (h' : Denotes r' line d') : r = r' :=
  Option.some.inj (h.ruleOf_opening.symm.trans h'.ruleOf_opening)

/-! ## Classification -/

/-- The first of some rules, in the order given, that accepts a line. -/
def firstOf (rules : List Rule) (line : List Char) : Option (Rule × Declaration) :=
  rules.findSome? fun r => (r.read? line).map (r, ·)

section
variable {rules rules' : List Rule} {g : EdgeGrammar} {r : Rule} {d : Declaration}

theorem denotes_of_firstOf (h : firstOf rules line = some (r, d)) :
    r ∈ rules ∧ Denotes r line d := by
  obtain ⟨r', hr', hread⟩ := List.exists_of_findSome?_eq_some h
  obtain ⟨d', hd', he⟩ := Option.map_eq_some_iff.mp hread
  cases he
  exact ⟨hr', read?_eq_some_iff.mp hd'⟩

theorem firstOf_eq_none_iff :
    firstOf rules line = none ↔ ∀ r ∈ rules, ∀ d, ¬ Denotes r line d := by
  rw [firstOf, List.findSome?_eq_none_iff]
  refine forall₂_congr fun r _ => ?_
  rw [Option.map_eq_none_iff, Option.eq_none_iff_forall_ne_some]
  simp only [ne_eq, read?_eq_some_iff]

/-- Whichever of the rules a line belongs to is the one that is found. -/
theorem firstOf_eq_some_iff :
    firstOf rules line = some (r, d) ↔ r ∈ rules ∧ Denotes r line d := by
  refine ⟨denotes_of_firstOf, fun h => ?_⟩
  obtain ⟨hr, hden⟩ := h
  cases hfound : firstOf rules line with
  | none => exact absurd hden (firstOf_eq_none_iff.mp hfound r hr d)
  | some found =>
    obtain ⟨r', d'⟩ := found
    obtain ⟨-, hden'⟩ := denotes_of_firstOf hfound
    obtain rfl : r = r' := hden.rule_unique hden'
    have hread := read?_eq_some_iff.mpr hden
    rw [read?_eq_some_iff.mpr hden'] at hread
    rw [Option.some.inj hread]

theorem firstOf_perm (h : rules.Perm rules') (line : List Char) :
    firstOf rules line = firstOf rules' line := by
  refine Option.ext fun found => ?_
  obtain ⟨r, d⟩ := found
  rw [firstOf_eq_some_iff, firstOf_eq_some_iff, h.mem_iff]

theorem classify_eq_firstOf (g : EdgeGrammar) (line : List Char) :
    classify g line = firstOf (Rule.active g) line := rfl

theorem denotes_of_classify (h : classify g line = some (r, d)) :
    r ∈ Rule.active g ∧ Denotes r line d :=
  denotes_of_firstOf h

theorem classify_eq_none_iff :
    classify g line = none ↔ ∀ r ∈ Rule.active g, ∀ d, ¬ Denotes r line d :=
  firstOf_eq_none_iff

theorem classify_eq_some_iff :
    classify g line = some (r, d) ↔ r ∈ Rule.active g ∧ Denotes r line d :=
  firstOf_eq_some_iff

theorem edge_mem_active (h : Rule.edge ∈ Rule.active g) : g = .full := by
  cases g with
  | full => rfl
  | simplified => exact absurd h (by decide)

theorem simplifiedEdge_mem_active (h : Rule.simplifiedEdge ∈ Rule.active g) : g = .simplified := by
  cases g with
  | full => exact absurd h (by decide)
  | simplified => rfl

/-- A line that makes an edge is a line of the edge rule in force. -/
theorem rule_of_classify_edge {e : Edge} (h : classify g line = some (r, .edge e)) :
    r = Rule.edgeRule g := by
  obtain ⟨hr, hden⟩ := denotes_of_classify h
  cases hden with
  | edge => rw [edge_mem_active hr]; rfl
  | simplifiedEdge => rw [simplifiedEdge_mem_active hr]; rfl

end

/-- Classification is membership: a line gets a rule and a declaration exactly when the grammar
puts it into that rule with that declaration, and nothing exactly when no rule in force has it. -/
theorem classify_iff_denotes (g : EdgeGrammar) (line : List Char) :
    (∀ r d, classify g line = some (r, d) ↔ r ∈ Rule.active g ∧ Denotes r line d) ∧
      (classify g line = none ↔ ∀ r ∈ Rule.active g, ∀ d, ¬ Denotes r line d) :=
  ⟨fun _ _ => classify_eq_some_iff, classify_eq_none_iff⟩

/-- Keywords are names like any other, so an edge may run between entities named after them. -/
example : classify .simplified "entity (1) -- (N) weak".toList =
    some (.simplifiedEdge, .edge ⟨none, ⟨"entity", .one, none⟩, ⟨"weak", .n, none⟩⟩) := by
  decide +kernel

/-- The rules do not compete. A line is accepted by at most one of them, so that the order of the
table is free, and no line is an edge in both shapes. -/
theorem rules_never_compete (line : List Char) :
    (∀ r r' : Rule, (r.read? line).isSome → (r'.read? line).isSome → r = r') ∧
      (∀ g rules, rules.Perm (Rule.active g) → firstOf rules line = classify g line) ∧
      ∀ r r' e e', ¬ (classify .full line = some (r, .edge e) ∧
        classify .simplified line = some (r', .edge e')) := by
  refine ⟨fun r r' hr hr' => ?_, fun g rules hperm => ?_, fun r r' e e' h => ?_⟩
  · obtain ⟨d, hd⟩ := Option.isSome_iff_exists.mp hr
    obtain ⟨d', hd'⟩ := Option.isSome_iff_exists.mp hr'
    exact (read?_eq_some_iff.mp hd).rule_unique (read?_eq_some_iff.mp hd')
  · rw [classify_eq_firstOf]
    exact firstOf_perm hperm line
  · obtain ⟨hfull, hsimplified⟩ := h
    have hsame := (denotes_of_classify hfull).2.rule_unique (denotes_of_classify hsimplified).2
    rw [rule_of_classify_edge hfull, rule_of_classify_edge hsimplified] at hsame
    exact absurd hsame (by decide)

/-- The plain rule does not take a weak entity from the rule for weak entities, though it is tried
first here and the name of the entity is its own keyword. -/
theorem rules_never_compete_weak_entity :
    (Rule.weakEntity.read? "weak entity entity".toList).isSome ∧
      (∀ r : Rule, (r.read? "weak entity entity".toList).isSome → r = .weakEntity) ∧
      firstOf (Rule.active .full).reverse "weak entity entity".toList =
        some (.weakEntity, .entity ⟨"entity", true⟩) := by
  have haccepts : (Rule.weakEntity.read? "weak entity entity".toList).isSome := by decide +kernel
  obtain ⟨hone, horder, -⟩ := rules_never_compete "weak entity entity".toList
  refine ⟨haccepts, fun r hr => hone r .weakEntity hr haccepts, ?_⟩
  rw [horder .full _ (List.reverse_perm _)]
  decide +kernel

end ChenDiagram.Source
