import ChenDiagram.Proofs.Source.Tokens

/-! The scanners against the grammar: a rule reads a line exactly when the grammar puts the line
into the rule, and then with the same declaration. -/

namespace ChenDiagram.Source
open Text Scanner

/-! ## Lists -/

section
variable {a w p body cs rest : List Char}

/-- Names one after another are a comma list together with the name before them. -/
theorem commaList_of_repeated {names : List String} {z : List Char}
    (h : Repeated nextName cs names (z ++ '\x7d' :: rest)) (hz : IsGap z) (ha : IsGap a)
    (hw : IsName w) :
    ∃ body, a ++ (w ++ cs) = body ++ '\x7d' :: rest ∧
      CommaList NameItem body (String.ofList w :: names) := by
  generalize hend : z ++ '\x7d' :: rest = last at h
  induction h generalizing a w with
  | stop _ =>
    subst hend
    exact ⟨a ++ w ++ z, by simp, .last ⟨a, w, z, rfl, ha, hw, hz, rfl⟩⟩
  | next hnext _ ih =>
    obtain ⟨b, a', w', rfl, rfl, hb, ha', hw', -⟩ := nextName_eq_some.mp hnext
    obtain ⟨body, hbody, hlist⟩ := ih ha' hw' hend
    exact ⟨a ++ w ++ b ++ ',' :: body, by simp [hbody],
      .more ⟨a, w, b, rfl, ha, hw, hb, rfl⟩ hlist⟩

/-- A comma list is read up to the brace that closes it. -/
theorem CommaList.namesUpTo {names : List String} (h : CommaList NameItem body names)
    (rest : List Char) : NamesUpTo rest (body ++ '\x7d' :: rest) names := by
  induction h with
  | last hitem =>
    obtain ⟨a, w, z, rfl, ha, hw, hz, rfl⟩ := hitem
    have hstop : Stops isWordChar (z ++ '\x7d' :: rest) :=
      hz.stops_isWordChar (stops_cons.mpr (by decide))
    simpa using NamesUpTo.intro ha hw hstop (.stop (nextName_eq_none hz rest)) hz
  | @more _ tail _ _ hitem _ ih =>
    obtain ⟨a, w, b, rfl, ha, hw, hb, rfl⟩ := hitem
    generalize hlist : tail ++ '\x7d' :: rest = list at ih
    have hcut : a ++ w ++ b ++ ',' :: tail ++ '\x7d' :: rest = a ++ (w ++ (b ++ ',' :: list)) := by
      simp [← hlist]
    have hstop : Stops isWordChar (b ++ ',' :: list) :=
      hb.stops_isWordChar (stops_cons.mpr (by decide))
    rw [hcut]
    cases ih with
    | intro ha' hw' hstop' hothers hz =>
      have hnext := nextName_eq_some.mpr ⟨b, _, _, rfl, rfl, hb, ha', hw', hstop'⟩
      exact .intro ha hw hstop (.next hnext hothers) hz

theorem bracedNames_iff {names : List String} :
    bracedNames cs = some (names, rest) ↔
      ∃ body, cs = '\x7b' :: (body ++ '\x7d' :: rest) ∧ CommaList NameItem body names := by
  rw [bracedNames_eq_some]
  constructor
  · intro hs
    obtain ⟨_, rfl, ha, hw, -, hothers, hz⟩ := hs
    obtain ⟨body, hbody, hlist⟩ := commaList_of_repeated hothers hz ha hw
    exact ⟨body, by rw [hbody], hlist⟩
  · intro hs
    obtain ⟨body, rfl, hlist⟩ := hs
    exact ⟨_, rfl, hlist.namesUpTo rest⟩

theorem partItem_iff {part : String} : PartItem p part ↔
    (',' ∉ p ∧ '\x7d' ∉ p) ∧ trim p ≠ [] ∧ part = String.ofList (trim p) := by
  have hfree : (∀ c ∈ p, c ≠ ',' ∧ c ≠ '\x7d') ↔ ',' ∉ p ∧ '\x7d' ∉ p := by
    constructor
    · exact fun h => ⟨fun hm => (h _ hm).1 rfl, fun hm => (h _ hm).2 rfl⟩
    · exact fun h c hc => ⟨fun he => h.1 (he ▸ hc), fun he => h.2 (he ▸ hc)⟩
  have hnil : trim p ≠ [] ↔ ∃ c ∈ p, isSpace c = false := by
    rw [trim, ne_eq, strip_eq_nil_iff]
    simp
  rw [PartItem, IsPart, hfree, hnil, and_assoc]

/-- A comma list of parts is its pieces. -/
theorem commaList_part_iff {parts : List String} : CommaList PartItem body parts ↔
    '\x7d' ∉ body ∧ (∀ p ∈ pieces ',' body, trim p ≠ []) ∧
      parts = (pieces ',' body).map fun p => String.ofList (trim p) := by
  constructor
  · intro h
    induction h with
    | last hp =>
      obtain ⟨⟨hcomma, hbrace⟩, hok, rfl⟩ := partItem_iff.mp hp
      rw [pieces_of_notMem hcomma]
      exact ⟨hbrace, by simpa using hok, rfl⟩
    | more hp _ ih =>
      obtain ⟨⟨hcomma, hbrace⟩, hok, rfl⟩ := partItem_iff.mp hp
      obtain ⟨hbrace', hall, rfl⟩ := ih
      rw [pieces_append_cons hcomma]
      exact ⟨by simp [hbrace, hbrace'], by simpa [hok] using hall, rfl⟩
  · intro hs
    obtain ⟨hbrace, hall, rfl⟩ := hs
    induction body using pieces_induction ',' with
    | last p hp =>
      rw [pieces_of_notMem hp] at hall ⊢
      exact .last (partItem_iff.mpr ⟨⟨hp, hbrace⟩, hall p (by simp), rfl⟩)
    | more p rest hp ih =>
      simp only [List.mem_append, List.mem_cons, not_or] at hbrace
      obtain ⟨hfirst, -, hrest⟩ := hbrace
      rw [pieces_append_cons hp] at hall ⊢
      have hmore := ih hrest fun q hq => hall q (List.mem_cons_of_mem _ hq)
      exact .more (partItem_iff.mpr ⟨⟨hp, hfirst⟩, hall p (by simp), rfl⟩) hmore

theorem bracedParts_iff {parts : List String} :
    bracedParts cs = some (parts, rest) ↔
      ∃ body, cs = '\x7b' :: (body ++ '\x7d' :: rest) ∧ CommaList PartItem body parts := by
  simp only [bracedParts_eq_some, commaList_part_iff]

end

/-! ## Rules -/

section
variable {line rest : List Char} {d : Declaration}

/-! The tables of the rules hold the words of the grammar, and no word begins another of its
table. -/

theorem channel_eq_some {channel : Channel} :
    oneOf Rule.channels line = some (channel, rest) ↔
      line = (channelWord channel).toList ++ rest := by
  rw [oneOf_eq_some (by decide)]
  cases channel <;> simp [Rule.channels, channelWord]

theorem kind_eq_some {kind : AttributeKind} :
    oneOf Rule.attributeKinds line = some (kind, rest) ↔
      ∃ mark, kindMark kind = some mark ∧ line = mark.toList ++ rest := by
  rw [oneOf_eq_some (by decide)]
  cases kind <;> simp [Rule.attributeKinds, kindMark]

theorem cardinality_eq_some {c : Cardinality} :
    oneOf Rule.cardinalities line = some (c, rest) ↔
      line = (cardinalityMark c).toList ++ rest := by
  rw [oneOf_eq_some (by decide)]
  cases c <;> simp [Rule.cardinalities, cardinalityMark]

theorem participation_eq_some {p : Participation} :
    oneOf Rule.participations line = some (p, rest) ↔ line = p.keyword.toList ++ rest := by
  rw [oneOf_eq_some (by decide)]
  cases p <;> simp [Rule.participations, Participation.keyword]

/-! Keywords are names too. -/

theorem isName_isa : IsName "ISA".toList := by decide

theorem isName_weak : IsName "weak".toList := by decide

theorem isName_entity : IsName "entity".toList := by decide

theorem isName_identifying : IsName "identifying".toList := by decide

theorem isName_relationship : IsName "relationship".toList := by decide

theorem isName_composite : IsName "composite".toList := by decide

theorem isName_attribute : IsName "attribute".toList := by decide

theorem isName_channelWord (channel : Channel) : IsName (channelWord channel).toList := by
  cases channel <;> decide

theorem isName_kindMark {kind : AttributeKind} {mark : String} (h : kindMark kind = some mark) :
    IsName mark.toList := by
  cases kind <;> cases h <;> decide

theorem isName_keyword (p : Participation) : IsName p.keyword.toList := by
  cases p <;> decide

theorem stops_cardinality (c : Cardinality) (rest : List Char) :
    Stops isBlank ((cardinalityMark c).toList ++ rest) := by
  cases c <;> exact stops_cons.mpr (by decide)

theorem stops_dashes (rest : List Char) : Stops isBlank ("--".toList ++ rest) :=
  stops_cons.mpr (by decide)

theorem scan_color : Rule.color.scan line = some (d, []) ↔ Denotes .color line d := by
  constructor
  · intro h
    simp only [Rule.scan, bind_eq_some, channel_eq_some, gap_eq_some, literal_eq_some,
      span_eq_some] at h
    obtain ⟨channel, _, rfl, h⟩ := h
    obtain ⟨_, _, ⟨z₁, rfl, hz₁, -⟩, _, _, rfl, h⟩ := h
    obtain ⟨_, _, ⟨z₂, rfl, hz₂, -⟩, _, _, rfl, h⟩ := h
    obtain ⟨digits, _, ⟨rfl, hdigits, -⟩, h⟩ := h
    split at h
    · next hlen =>
      obtain ⟨rfl, rfl⟩ := pure_eq_some.mp h
      simpa using Denotes.color hz₁ hz₂ hdigits hlen
    · cases h
  · intro h
    cases h with
    | @color channel z₁ z₂ digits hz₁ hz₂ hdigits hlen =>
      have hspan : span isHexDigit digits = some (digits, []) :=
        span_eq_some.mpr ⟨(List.append_nil digits).symm, hdigits, by simp⟩
      have hcolon : literal ":" (':' :: (z₂ ++ '#' :: digits)) = some ((), z₂ ++ '#' :: digits) :=
        literal_append ":" _
      have hhash : literal "#" ('#' :: digits) = some ((), digits) := literal_append "#" _
      simp only [Rule.scan, List.append_assoc, List.cons_append]
      rw [bind_of_eq_some (channel_eq_some.mpr rfl),
        bind_of_eq_some (gap_append hz₁ (stops_cons.mpr (by decide))), bind_of_eq_some hcolon,
        bind_of_eq_some (gap_append hz₂ (stops_cons.mpr (by decide))), bind_of_eq_some hhash,
        bind_of_eq_some hspan, if_pos hlen]
      rfl

theorem scan_isa : Rule.isa.scan line = some (d, []) ↔ Denotes .isa line d := by
  constructor
  · intro h
    simp only [Rule.scan, bind_eq_some, keyword_eq_some, word_eq_some, gap_eq_some, bracedNames_iff,
      pure_eq_some] at h
    obtain ⟨_, _, ⟨b, rfl, hb, -⟩, h⟩ := h
    obtain ⟨_, _, ⟨w, rfl, rfl, hw, -⟩, h⟩ := h
    obtain ⟨_, _, ⟨z, rfl, hz, -⟩, h⟩ := h
    obtain ⟨names, _, ⟨body, rfl, hbody⟩, rfl, rfl⟩ := h
    simpa using Denotes.isa hb hw hz hbody
  · intro h
    cases h with
    | @isa b w z body names hb hw hz hbody =>
      simp only [Rule.scan, List.append_assoc, List.cons_append]
      rw [bind_of_eq_some (keyword_append _ hb (hw.stops_isBlank _)),
        bind_of_eq_some (word_append hw (hz.stops_isWordChar (stops_cons.mpr (by decide)))),
        bind_of_eq_some (gap_append hz (stops_cons.mpr (by decide))),
        bind_of_eq_some (bracedNames_iff.mpr ⟨body, rfl, hbody⟩)]
      rfl

/-- A keyword and a name, up to the end of the line. -/
theorem keyword_word {key : String} {f : String → Declaration} :
    (do keyword key; let name ← word; pure (f name) : Scanner Declaration) line = some (d, []) ↔
      ∃ b w, line = key.toList ++ b ++ w ∧ IsBreak b ∧ IsName w ∧ d = f (String.ofList w) := by
  constructor
  · intro h
    simp only [bind_eq_some, keyword_eq_some, word_eq_some, pure_eq_some] at h
    obtain ⟨_, _, ⟨b, rfl, hb, -⟩, h⟩ := h
    obtain ⟨_, _, ⟨w, rfl, rfl, hw, -⟩, rfl, rfl⟩ := h
    exact ⟨b, w, by simp, hb, hw, rfl⟩
  · intro h
    obtain ⟨b, w, rfl, hb, hw, rfl⟩ := h
    rw [List.append_assoc, bind_of_eq_some (keyword_append _ hb hw.stops_isBlank_self),
      bind_of_eq_some (word_eq_of_isName hw)]
    rfl

/-- Two keywords and a name; the second keyword could itself be a name. -/
theorem keyword_keyword_word {key₁ key₂ : String} {f : String → Declaration}
    (hkey : IsName key₂.toList) :
    (do keyword key₁; keyword key₂; let name ← word; pure (f name) : Scanner Declaration) line =
      some (d, []) ↔ ∃ b₁ b₂ w, line = key₁.toList ++ b₁ ++ key₂.toList ++ b₂ ++ w ∧
        IsBreak b₁ ∧ IsBreak b₂ ∧ IsName w ∧ d = f (String.ofList w) := by
  constructor
  · intro h
    obtain ⟨_, _, hk, h⟩ := bind_eq_some.mp h
    obtain ⟨b₁, hline, hb₁, -⟩ := keyword_eq_some.mp hk
    obtain ⟨b₂, w, rfl, hb₂, hw, rfl⟩ := keyword_word.mp h
    exact ⟨b₁, b₂, w, by simp [hline], hb₁, hb₂, hw, rfl⟩
  · intro h
    obtain ⟨b₁, b₂, w, rfl, hb₁, hb₂, hw, rfl⟩ := h
    simp only [List.append_assoc]
    rw [bind_of_eq_some (keyword_append _ hb₁ (hkey.stops_isBlank _))]
    exact keyword_word.mpr ⟨b₂, w, by simp, hb₂, hw, rfl⟩

theorem scan_weakEntity :
    Rule.weakEntity.scan line = some (d, []) ↔ Denotes .weakEntity line d := by
  rw [Rule.scan, keyword_keyword_word isName_entity]
  constructor
  · intro h
    obtain ⟨b₁, b₂, w, rfl, hb₁, hb₂, hw, rfl⟩ := h
    exact .weakEntity hb₁ hb₂ hw
  · intro h
    cases h with
    | weakEntity hb₁ hb₂ hw => exact ⟨_, _, _, rfl, hb₁, hb₂, hw, rfl⟩

theorem scan_entity : Rule.entity.scan line = some (d, []) ↔ Denotes .entity line d := by
  rw [Rule.scan, keyword_word]
  constructor
  · intro h
    obtain ⟨b, w, rfl, hb, hw, rfl⟩ := h
    exact .entity hb hw
  · intro h
    cases h with
    | entity hb hw => exact ⟨_, _, rfl, hb, hw, rfl⟩

theorem scan_identifyingRelationship :
    Rule.identifyingRelationship.scan line = some (d, []) ↔
      Denotes .identifyingRelationship line d := by
  rw [Rule.scan, keyword_keyword_word isName_relationship]
  constructor
  · intro h
    obtain ⟨b₁, b₂, w, rfl, hb₁, hb₂, hw, rfl⟩ := h
    exact .identifyingRelationship hb₁ hb₂ hw
  · intro h
    cases h with
    | identifyingRelationship hb₁ hb₂ hw => exact ⟨_, _, _, rfl, hb₁, hb₂, hw, rfl⟩

theorem scan_relationship :
    Rule.relationship.scan line = some (d, []) ↔ Denotes .relationship line d := by
  rw [Rule.scan, keyword_word]
  constructor
  · intro h
    obtain ⟨b, w, rfl, hb, hw, rfl⟩ := h
    exact .relationship hb hw
  · intro h
    cases h with
    | relationship hb hw => exact ⟨_, _, rfl, hb, hw, rfl⟩

/-- The common start of composites and attributes: a keyword, an owner and a name. -/
theorem keyword_owner_name {key : String} {f : String → String → Scanner Declaration} :
    (do keyword key; let owner ← word; blanks; let name ← word; f owner name :
      Scanner Declaration) line = some (d, []) ↔
      ∃ b₁ owner b₂ name rest, line = key.toList ++ b₁ ++ owner ++ b₂ ++ name ++ rest ∧
        IsBreak b₁ ∧ IsName owner ∧ IsBreak b₂ ∧ IsName name ∧ Stops isWordChar rest ∧
        f (String.ofList owner) (String.ofList name) rest = some (d, []) := by
  constructor
  · intro h
    simp only [bind_eq_some, keyword_eq_some, word_eq_some, blanks_eq_some] at h
    obtain ⟨_, _, ⟨b₁, rfl, hb₁, -⟩, h⟩ := h
    obtain ⟨_, _, ⟨owner, rfl, rfl, howner, -⟩, h⟩ := h
    obtain ⟨_, _, ⟨b₂, rfl, hb₂, -⟩, h⟩ := h
    obtain ⟨_, rest, ⟨name, rfl, rfl, hname, hstop⟩, h⟩ := h
    exact ⟨b₁, owner, b₂, name, rest, by simp, hb₁, howner, hb₂, hname, hstop, h⟩
  · intro h
    obtain ⟨b₁, owner, b₂, name, rest, rfl, hb₁, howner, hb₂, hname, hstop, h⟩ := h
    simp only [List.append_assoc]
    rw [bind_of_eq_some (keyword_append _ hb₁ (howner.stops_isBlank _)),
      bind_of_eq_some (word_append howner (hb₂.stops_isWordChar _)),
      bind_of_eq_some (blanks_append hb₂ (hname.stops_isBlank _)),
      bind_of_eq_some (word_append hname hstop)]
    exact h

theorem scan_composite :
    Rule.composite.scan line = some (d, []) ↔ Denotes .composite line d := by
  rw [Rule.scan, keyword_owner_name]
  simp only [bind_eq_some, gap_eq_some, bracedParts_iff, pure_eq_some]
  constructor
  · intro h
    obtain ⟨b₁, owner, b₂, name, _, rfl, hb₁, howner, hb₂, hname, -, h⟩ := h
    obtain ⟨_, _, ⟨z, rfl, hz, -⟩, h⟩ := h
    obtain ⟨parts, _, ⟨body, rfl, hbody⟩, rfl, rfl⟩ := h
    simpa using Denotes.composite hb₁ howner hb₂ hname hz hbody
  · intro h
    cases h with
    | @composite b₁ owner b₂ name z body parts hb₁ howner hb₂ hname hz hbody =>
      refine ⟨b₁, owner, b₂, name, z ++ '\x7b' :: (body ++ ['\x7d']), by simp, hb₁, howner, hb₂,
        hname, hz.stops_isWordChar (stops_cons.mpr (by decide)), (), _,
        ⟨z, rfl, hz, stops_cons.mpr (by decide)⟩, parts, [], ⟨body, rfl, hbody⟩, rfl, rfl⟩

/-- The mark of an attribute with the break before it, or nothing at all. -/
theorem scan_kind {kind : AttributeKind} :
    ((do blanks; oneOf Rule.attributeKinds) <|> pure .plain : Scanner AttributeKind) rest =
      some (kind, []) ↔
      rest = [] ∧ kind = .plain ∨
        ∃ b mark, rest = b ++ mark.toList ∧ IsBreak b ∧ kindMark kind = some mark := by
  simp only [orElse_eq_some, bind_eq_some, blanks_eq_some, pure_eq_some, kind_eq_some]
  constructor
  · intro h
    rcases h with ⟨_, _, ⟨b, rfl, hb, -⟩, mark, hmark, rfl⟩ | ⟨-, rfl, rfl⟩
    · exact .inr ⟨b, mark, by simp, hb, hmark⟩
    · exact .inl ⟨rfl, rfl⟩
  · intro h
    rcases h with ⟨rfl, rfl⟩ | ⟨b, mark, rfl, hb, hmark⟩
    · exact .inr ⟨rfl, rfl, rfl⟩
    · have hstop := (isName_kindMark hmark).stops_isBlank []
      exact .inl ⟨(), mark.toList ++ [], ⟨b, by simp, hb, hstop⟩, mark, hmark, rfl⟩

theorem scan_attribute :
    Rule.attribute.scan line = some (d, []) ↔ Denotes .attribute line d := by
  rw [Rule.scan, keyword_owner_name]
  constructor
  · intro h
    obtain ⟨b₁, owner, b₂, name, rest, rfl, hb₁, howner, hb₂, hname, -, h⟩ := h
    obtain ⟨kind, _, hkind, h⟩ := bind_eq_some.mp h
    obtain ⟨rfl, rfl⟩ := pure_eq_some.mp h
    rcases scan_kind.mp hkind with ⟨rfl, rfl⟩ | ⟨b₃, mark, rfl, hb₃, hmark⟩
    · simpa using Denotes.plainAttribute hb₁ howner hb₂ hname
    · simpa using Denotes.markedAttribute hb₁ howner hb₂ hname hb₃ hmark
  · intro h
    cases h with
    | @plainAttribute b₁ owner b₂ name hb₁ howner hb₂ hname =>
      refine ⟨b₁, owner, b₂, name, [], by simp, hb₁, howner, hb₂, hname, stops_nil, ?_⟩
      rw [bind_of_eq_some (scan_kind.mpr (.inl ⟨rfl, rfl⟩))]
      rfl
    | @markedAttribute b₁ owner b₂ name b₃ mark kind hb₁ howner hb₂ hname hb₃ hmark =>
      refine ⟨b₁, owner, b₂, name, b₃ ++ mark.toList, by simp, hb₁, howner, hb₂, hname,
        hb₃.stops_isWordChar _, ?_⟩
      rw [bind_of_eq_some (scan_kind.mpr (.inr ⟨b₃, mark, rfl, hb₃, hmark⟩))]
      rfl

theorem scan_simplifiedEdge :
    Rule.simplifiedEdge.scan line = some (d, []) ↔ Denotes .simplifiedEdge line d := by
  constructor
  · intro h
    simp only [Rule.scan, bind_eq_some, word_eq_some, blanks_eq_some, literal_eq_some,
      cardinality_eq_some, pure_eq_some] at h
    obtain ⟨_, _, ⟨v, rfl, rfl, hv, -⟩, h⟩ := h
    obtain ⟨_, _, ⟨b₁, rfl, hb₁, -⟩, h⟩ := h
    obtain ⟨c₁, _, rfl, h⟩ := h
    obtain ⟨_, _, ⟨b₂, rfl, hb₂, -⟩, _, _, rfl, h⟩ := h
    obtain ⟨_, _, ⟨b₃, rfl, hb₃, -⟩, h⟩ := h
    obtain ⟨c₂, _, rfl, h⟩ := h
    obtain ⟨_, _, ⟨b₄, rfl, hb₄, -⟩, h⟩ := h
    obtain ⟨_, _, ⟨w, rfl, rfl, hw, -⟩, rfl, rfl⟩ := h
    simpa using Denotes.simplifiedEdge hv hb₁ hb₂ hb₃ hb₄ hw
  · intro h
    cases h with
    | simplifiedEdge hv hb₁ hb₂ hb₃ hb₄ hw =>
      simp only [Rule.scan, List.append_assoc]
      rw [bind_of_eq_some (word_append hv (hb₁.stops_isWordChar _)),
        bind_of_eq_some (blanks_append hb₁ (stops_cardinality _ _)),
        bind_of_eq_some (cardinality_eq_some.mpr rfl),
        bind_of_eq_some (blanks_append hb₂ (stops_dashes _)),
        bind_of_eq_some (literal_append "--" _),
        bind_of_eq_some (blanks_append hb₃ (stops_cardinality _ _)),
        bind_of_eq_some (cardinality_eq_some.mpr rfl),
        bind_of_eq_some (blanks_append hb₄ hw.stops_isBlank_self),
        bind_of_eq_some (word_eq_of_isName hw)]
      rfl

theorem scan_edge : Rule.edge.scan line = some (d, []) ↔ Denotes .edge line d := by
  constructor
  · intro h
    simp only [Rule.scan, bind_eq_some, word_eq_some, blanks_eq_some, literal_eq_some,
      cardinality_eq_some, participation_eq_some, pure_eq_some] at h
    obtain ⟨_, _, ⟨r, rfl, rfl, hr, -⟩, h⟩ := h
    obtain ⟨_, _, ⟨b₁, rfl, hb₁, -⟩, h⟩ := h
    obtain ⟨_, _, ⟨v, rfl, rfl, hv, -⟩, h⟩ := h
    obtain ⟨_, _, ⟨b₂, rfl, hb₂, -⟩, h⟩ := h
    obtain ⟨c₁, _, rfl, h⟩ := h
    obtain ⟨_, _, ⟨b₃, rfl, hb₃, -⟩, h⟩ := h
    obtain ⟨p₁, _, rfl, h⟩ := h
    obtain ⟨_, _, ⟨b₄, rfl, hb₄, -⟩, _, _, rfl, h⟩ := h
    obtain ⟨_, _, ⟨b₅, rfl, hb₅, -⟩, h⟩ := h
    obtain ⟨c₂, _, rfl, h⟩ := h
    obtain ⟨_, _, ⟨b₆, rfl, hb₆, -⟩, h⟩ := h
    obtain ⟨p₂, _, rfl, h⟩ := h
    obtain ⟨_, _, ⟨b₇, rfl, hb₇, -⟩, h⟩ := h
    obtain ⟨_, _, ⟨w, rfl, rfl, hw, -⟩, rfl, rfl⟩ := h
    simpa using Denotes.edge hr hb₁ hv hb₂ hb₃ hb₄ hb₅ hb₆ hb₇ hw
  · intro h
    cases h with
    | edge hr hb₁ hv hb₂ hb₃ hb₄ hb₅ hb₆ hb₇ hw =>
      simp only [Rule.scan, List.append_assoc]
      rw [bind_of_eq_some (word_append hr (hb₁.stops_isWordChar _)),
        bind_of_eq_some (blanks_append hb₁ (hv.stops_isBlank _)),
        bind_of_eq_some (word_append hv (hb₂.stops_isWordChar _)),
        bind_of_eq_some (blanks_append hb₂ (stops_cardinality _ _)),
        bind_of_eq_some (cardinality_eq_some.mpr rfl),
        bind_of_eq_some (blanks_append hb₃ ((isName_keyword _).stops_isBlank _)),
        bind_of_eq_some (participation_eq_some.mpr rfl),
        bind_of_eq_some (blanks_append hb₄ (stops_dashes _)),
        bind_of_eq_some (literal_append "--" _),
        bind_of_eq_some (blanks_append hb₅ (stops_cardinality _ _)),
        bind_of_eq_some (cardinality_eq_some.mpr rfl),
        bind_of_eq_some (blanks_append hb₆ ((isName_keyword _).stops_isBlank _)),
        bind_of_eq_some (participation_eq_some.mpr rfl),
        bind_of_eq_some (blanks_append hb₇ hw.stops_isBlank_self),
        bind_of_eq_some (word_eq_of_isName hw)]
      rfl

/-- A rule reads exactly its own lines, each with the declaration that the line makes. -/
theorem read?_eq_some_iff {r : Rule} : r.read? line = some d ↔ Denotes r line d := by
  rw [Rule.read?, readAll_eq_some]
  match r with
  | .color => exact scan_color
  | .isa => exact scan_isa
  | .weakEntity => exact scan_weakEntity
  | .entity => exact scan_entity
  | .identifyingRelationship => exact scan_identifyingRelationship
  | .relationship => exact scan_relationship
  | .composite => exact scan_composite
  | .attribute => exact scan_attribute
  | .edge => exact scan_edge
  | .simplifiedEdge => exact scan_simplifiedEdge

end

end ChenDiagram.Source
