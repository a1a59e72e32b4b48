import ChenDiagram.Proofs.Source.Invariant

/-! Writing declarations down. Every declaration that fits has a line on which it is read back, and
such lines hold no line feed, so a list of declarations is read back from its lines in order. -/

namespace ChenDiagram.Source
open Text
variable {g : EdgeGrammar} {x : Declaration}

/-! ## Lines -/

def writeMark (kind : AttributeKind) : List Char :=
  match kindMark kind with
  | none => []
  | some mark => [' '] ++ mark.toList

def writeList (items : List String) : List Char :=
  '\x7b' :: [','].intercalate (items.map String.toList) ++ ['\x7d']

def writeColor (channel : Channel) (color : String) : List Char :=
  (channelWord channel).toList ++ ':' :: [' '] ++ color.toList

def writeGeneralization (i : Generalization) : List Char :=
  "ISA".toList ++ [' '] ++ i.supertype.toList ++ [' '] ++ writeList i.subtypes

def writeEntity (e : Entity) : List Char :=
  (if e.weak then "weak".toList ++ [' '] else []) ++ "entity".toList ++ [' '] ++ e.name.toList

def writeRelationship (r : Relationship) : List Char :=
  (if r.identifying then "identifying".toList ++ [' '] else []) ++ "relationship".toList ++ [' '] ++
    r.name.toList

def writeComposite (c : Composite) : List Char :=
  "composite".toList ++ [' '] ++ c.owner.toList ++ [' '] ++ c.name.toList ++ [' '] ++
    writeList c.parts

def writeAttribute (a : Attribute) : List Char :=
  "attribute".toList ++ [' '] ++ a.owner.toList ++ [' '] ++ a.name.toList ++
    writeMark a.kind

/-- The long form where everything it says is known, else the short one. -/
def writeEdge (e : Edge) : List Char :=
  match e.relationship, e.tail.participation, e.head.participation with
  | some r, some p, some p' =>
    r.toList ++ [' '] ++ e.tail.entity.toList ++ [' '] ++
      (cardinalityMark e.tail.cardinality).toList ++ [' '] ++ p.keyword.toList ++ [' '] ++
      "--".toList ++ [' '] ++ (cardinalityMark e.head.cardinality).toList ++ [' '] ++
      p'.keyword.toList ++ [' '] ++ e.head.entity.toList
  | _, _, _ =>
    e.tail.entity.toList ++ [' '] ++ (cardinalityMark e.tail.cardinality).toList ++ [' '] ++
      "--".toList ++ [' '] ++ (cardinalityMark e.head.cardinality).toList ++ [' '] ++
      e.head.entity.toList

/-- The plainest line that makes a declaration, with single blanks between tokens. -/
def write : Declaration → List Char
  | .color channel color => writeColor channel color
  | .generalization i => writeGeneralization i
  | .entity e => writeEntity e
  | .relationship r => writeRelationship r
  | .composite c => writeComposite c
  | .attribute a => writeAttribute a
  | .edge e => writeEdge e

theorem isGap_nil : IsGap [] := by simp [IsGap]

theorem commaList_intercalate {item : List Char → String → Prop} {values : List String}
    (hne : values ≠ []) (h : ∀ v ∈ values, item v.toList v) :
    CommaList item ([','].intercalate (values.map String.toList)) values := by
  induction values with
  | nil => exact absurd rfl hne
  | cons v values ih =>
    cases values with
    | nil => simpa using CommaList.last (h v (by simp))
    | cons v' values =>
      have hmore := CommaList.more (h v (by simp))
        (ih (by simp) fun u hu => h u (List.mem_cons_of_mem _ hu))
      simpa [List.intercalate_cons_cons] using hmore

theorem Named.nameItem {name : String} (h : Named name) : NameItem name.toList name :=
  ⟨[], name.toList, [], by simp, isGap_nil, h, isGap_nil, String.ofList_toList.symm⟩

theorem IsPartName.partItem {part : String} (h : IsPartName part) : PartItem part.toList part := by
  obtain ⟨hne, htrim, hfree⟩ := h
  refine ⟨⟨fun c hc => ⟨(hfree c hc).1, (hfree c hc).2.1⟩, ?_⟩, ?_⟩
  · have hnil : trim part.toList ≠ [] := by
      rw [htrim]
      simpa using hne
    simpa [trim, strip_eq_nil_iff] using hnil
  · rw [htrim, String.ofList_toList]

theorem kindMark_eq_none {kind : AttributeKind} (h : kindMark kind = none) : kind = .plain := by
  cases kind with
  | plain => rfl
  | primaryKey => cases h
  | multivalued => cases h
  | derived => cases h

theorem denotes_writeAttribute {a : Attribute} (howner : Named a.owner) (hname : Named a.name) :
    Denotes .attribute (writeAttribute a) (.attribute a) := by
  obtain ⟨owner, name, kind⟩ := a
  unfold writeAttribute writeMark
  split
  · next hkind =>
    have h := Denotes.plainAttribute isBreak_blank howner isBreak_blank hname
    rw [String.ofList_toList, String.ofList_toList, ← kindMark_eq_none hkind] at h
    rw [List.append_nil]
    exact h
  · next mark hkind =>
    have h := Denotes.markedAttribute isBreak_blank howner isBreak_blank hname isBreak_blank hkind
    rw [String.ofList_toList, String.ofList_toList] at h
    rw [← List.append_assoc]
    exact h

theorem denotes_writeEdge {e : Edge} (h : Fits g (.edge e)) :
    Denotes (Rule.edgeRule g) (writeEdge e) (.edge e) := by
  obtain ⟨relationship, ⟨v, c, p⟩, ⟨w, c', p'⟩⟩ := e
  obtain ⟨hv, hw, hfits⟩ := h
  cases g with
  | full =>
    obtain ⟨⟨r, hr, hname⟩, hp, hp'⟩ := hfits
    obtain ⟨q, hq⟩ := Option.isSome_iff_exists.mp hp
    obtain ⟨q', hq'⟩ := Option.isSome_iff_exists.mp hp'
    simp only at hr hq hq'
    subst hr hq hq'
    have h : Denotes .edge _ (.edge ⟨some (String.ofList r.toList),
        ⟨String.ofList v.toList, c, some q⟩, ⟨String.ofList w.toList, c', some q'⟩⟩) :=
      .edge hname isBreak_blank hv isBreak_blank isBreak_blank isBreak_blank isBreak_blank
        isBreak_blank isBreak_blank hw
    simp only [String.ofList_toList] at h
    exact h
  | simplified =>
    obtain ⟨hr, hp, hp'⟩ := hfits
    simp only at hr hp hp'
    subst hr hp hp'
    have h : Denotes .simplifiedEdge _ (.edge ⟨none, ⟨String.ofList v.toList, c, none⟩,
        ⟨String.ofList w.toList, c', none⟩⟩) :=
      .simplifiedEdge hv isBreak_blank isBreak_blank isBreak_blank isBreak_blank hw
    simp only [String.ofList_toList] at h
    exact h

theorem mem_active {r : Rule} (h : r ∈ Rule.declarationRules) : r ∈ Rule.active g :=
  List.mem_append_left _ h

theorem exists_denotes_write (h : Fits g x) : ∃ r ∈ Rule.active g, Denotes r (write x) x := by
  match x with
  | .color channel color =>
    obtain ⟨digits, hcolor, hlen, hdigits⟩ := h
    have hline : Denotes .color _ (.color channel (String.ofList ('#' :: digits))) :=
      .color isGap_nil isBreak_blank.2 hdigits hlen
    rw [← hcolor, String.ofList_toList, List.append_nil] at hline
    exact ⟨.color, mem_active (by decide), hline⟩
  | .generalization i =>
    obtain ⟨hsuper, hne, hsubs⟩ := h
    have hline := Denotes.isa isBreak_blank hsuper isBreak_blank.2
      (commaList_intercalate hne fun v hv => (hsubs v hv).nameItem)
    rw [String.ofList_toList, List.append_assoc _ _ ['\x7d']] at hline
    exact ⟨.isa, mem_active (by decide), hline⟩
  | .entity ⟨name, true⟩ =>
    have hline := Denotes.weakEntity isBreak_blank isBreak_blank h
    rw [String.ofList_toList] at hline
    exact ⟨.weakEntity, mem_active (by decide), hline⟩
  | .entity ⟨name, false⟩ =>
    have hline := Denotes.entity isBreak_blank h
    rw [String.ofList_toList] at hline
    exact ⟨.entity, mem_active (by decide), hline⟩
  | .relationship ⟨name, true⟩ =>
    have hline := Denotes.identifyingRelationship isBreak_blank isBreak_blank h
    rw [String.ofList_toList] at hline
    exact ⟨.identifyingRelationship, mem_active (by decide), hline⟩
  | .relationship ⟨name, false⟩ =>
    have hline := Denotes.relationship isBreak_blank h
    rw [String.ofList_toList] at hline
    exact ⟨.relationship, mem_active (by decide), hline⟩
  | .composite c =>
    obtain ⟨howner, hname, hne, hparts⟩ := h
    have hline := Denotes.composite isBreak_blank howner isBreak_blank hname isBreak_blank.2
      (commaList_intercalate hne fun v hv => (hparts v hv).partItem)
    rw [String.ofList_toList, String.ofList_toList, List.append_assoc _ _ ['\x7d']] at hline
    exact ⟨.composite, mem_active (by decide), hline⟩
  | .attribute a =>
    exact ⟨.attribute, mem_active (by decide),
      denotes_writeAttribute h.1 h.2⟩
  | .edge e => exact ⟨Rule.edgeRule g, by simp [Rule.active], denotes_writeEdge h⟩

/-! ## No line feeds -/

theorem Named.lineFeed_notMem {name : String} (h : Named name) : '\n' ∉ name.toList := by
  intro hmem
  have hword : isWordChar '\n' = true := h.2 _ hmem
  exact absurd hword (by decide)

theorem IsColor.lineFeed_notMem {color : String} (h : IsColor color) : '\n' ∉ color.toList := by
  obtain ⟨digits, hcolor, -, hdigits⟩ := h
  rw [hcolor, List.mem_cons, not_or]
  refine ⟨by decide, fun hmem => ?_⟩
  exact absurd (hdigits _ hmem) (by decide)

theorem lineFeed_notMem_writeList {items : List String} (h : ∀ v ∈ items, '\n' ∉ v.toList) :
    '\n' ∉ writeList items := by
  have hbody : '\n' ∉ [','].intercalate (items.map String.toList) := by
    induction items with
    | nil => simp
    | cons v items ih =>
      obtain ⟨hv, hitems⟩ := List.forall_mem_cons.mp h
      cases items with
      | nil => simpa using hv
      | cons w items =>
        have htail := ih hitems
        rw [List.map_cons] at htail
        rw [List.map_cons, List.map_cons, List.intercalate_cons_cons]
        simp [hv, htail]
  simp [writeList, hbody]

theorem lineFeed_notMem_writeMark (kind : AttributeKind) : '\n' ∉ writeMark kind := by
  cases kind <;> decide

theorem lineFeed_notMem_mark (c : Cardinality) : '\n' ∉ (cardinalityMark c).toList := by
  cases c <;> decide

theorem lineFeed_notMem_writeEdge {e : Edge} (h : Fits g (.edge e)) : '\n' ∉ writeEdge e := by
  obtain ⟨hv, hw, hfits⟩ := h
  have htail := hv.lineFeed_notMem
  have hhead := hw.lineFeed_notMem
  unfold writeEdge
  split
  · next r p p' hr _ _ =>
    have hname : '\n' ∉ r.toList := by
      cases g with
      | full =>
        obtain ⟨⟨r', hr', hname⟩, -⟩ := hfits
        obtain rfl := Option.some.inj (hr.symm.trans hr')
        exact hname.lineFeed_notMem
      | simplified => exact absurd (hr.symm.trans hfits.1) (by simp)
    have hkeyword := fun p : Participation => Named.lineFeed_notMem (isName_keyword p)
    simp [htail, hhead, hname, lineFeed_notMem_mark, hkeyword]
  · simp [htail, hhead, lineFeed_notMem_mark]

theorem lineFeed_notMem_write (h : Fits g x) : '\n' ∉ write x := by
  match x with
  | .color channel color =>
    have hcolor := IsColor.lineFeed_notMem h
    have hkey := Named.lineFeed_notMem (isName_channelWord channel)
    unfold write writeColor
    simp [hkey, hcolor]
  | .generalization i =>
    have hsubs := lineFeed_notMem_writeList fun v hv => (h.2.2 v hv).lineFeed_notMem
    unfold write writeGeneralization
    simp [h.1.lineFeed_notMem, hsubs]
  | .entity ⟨name, weak⟩ =>
    have hname : '\n' ∉ name.toList := Named.lineFeed_notMem h
    unfold write writeEntity
    cases weak <;> simp [hname]
  | .relationship ⟨name, identifying⟩ =>
    have hname : '\n' ∉ name.toList := Named.lineFeed_notMem h
    unfold write writeRelationship
    cases identifying <;> simp [hname]
  | .composite c =>
    have hparts := lineFeed_notMem_writeList fun v hv hmem => ((h.2.2.2 v hv).2.2 _ hmem).2.2 rfl
    unfold write writeComposite
    simp [h.1.lineFeed_notMem, h.2.1.lineFeed_notMem, hparts]
  | .attribute a =>
    unfold write writeAttribute
    simp [h.1.lineFeed_notMem, h.2.lineFeed_notMem, lineFeed_notMem_writeMark]
  | .edge e => exact lineFeed_notMem_writeEdge h

/-! ## Texts -/

theorem read_write (h : Fits g x) : ∃ r, Line.read g (write x) = .declared r x := by
  obtain ⟨r, hr, hline⟩ := exists_denotes_write h
  refine ⟨r, read_eq_declared_iff.mpr ?_⟩
  rw [hline.tight.trim_eq]
  exact classify_eq_some_iff.mpr ⟨hr, hline⟩

/-- One line for each declaration, ended by a line feed. -/
def writeAll (xs : List Declaration) : String :=
  String.ofList (xs.flatMap fun x => write x ++ ['\n'])

theorem pieces_writeAll {xs : List Declaration} (h : ∀ x ∈ xs, Fits g x) :
    pieces '\n' (writeAll xs).toList = xs.map write ++ [[]] := by
  rw [writeAll, String.toList_ofList]
  induction xs with
  | nil => rfl
  | cons x xs ih =>
    obtain ⟨hx, hxs⟩ := List.forall_mem_cons.mp h
    rw [List.flatMap_cons, List.append_assoc, List.singleton_append,
      pieces_append_cons (lineFeed_notMem_write hx), ih hxs]
    rfl

theorem declarations_writeAll {xs : List Declaration} (h : ∀ x ∈ xs, Fits g x) :
    declarations (readLines g (writeAll xs)) = xs := by
  rw [declarations_readLines, pieces_writeAll h]
  induction xs with
  | nil => rfl
  | cons x xs ih =>
    obtain ⟨hx, hxs⟩ := List.forall_mem_cons.mp h
    obtain ⟨r, hr⟩ := read_write hx
    rw [List.map_cons, List.cons_append, List.filterMap_cons, hr, Line.declaration?, ih hxs]

theorem ignoredLines_writeAll {xs : List Declaration} (h : ∀ x ∈ xs, Fits g x) :
    ignoredLines (readLines g (writeAll xs)) = [] := by
  refine ignoredLines_readLines_eq_nil fun raw hraw t => ?_
  rw [pieces_writeAll h, List.mem_append, List.mem_map, List.mem_singleton] at hraw
  rcases hraw with ⟨x, hx, rfl⟩ | rfl
  · obtain ⟨r, hr⟩ := read_write (h x hx)
    rw [hr]
    exact Line.noConfusion
  · exact Line.noConfusion

/-- What is written is read back in order, and no line is passed over. -/
theorem parse_writeAll {xs : List Declaration} (h : ∀ x ∈ xs, Fits g x) :
    parse g (writeAll xs) = { diagram := .ofDeclarations xs, ignored := [] } := by
  rw [parse, Parsed.ofLines, declarations_writeAll h, ignoredLines_writeAll h]

end ChenDiagram.Source
