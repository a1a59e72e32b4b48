import ChenDiagram.Dot.Layout
import ChenDiagram.Dot.Reader
import ChenDiagram.Proofs.Text.Runs
import ChenDiagram.Proofs.Text.Scanners

/-! Printed documents are read back: every text inside one is escaped so that its end can be told,
whatever the text holds. Each printed form is followed through the reader together with the rest of
the document, and only a pen width needs to know what comes after it. -/

namespace ChenDiagram.Dot
open Text Scanner

/-! ## Texts -/

theorem quotedBody_escaped (cs rest : List Char) :
    quotedBody (cs.flatMap escapeQuoted ++ '"' :: rest) = some (cs, rest) := by
  induction cs with
  | nil => simp [quotedBody]
  | cons c cs ih =>
    rw [List.flatMap_cons, List.append_assoc]
    by_cases hquote : c = '"'
    · subst hquote
      simp [escapeQuoted, quotedBody, ih]
    · by_cases hslash : c = '\\'
      · subst hslash
        simp [escapeQuoted, quotedBody, ih]
      · simp [escapeQuoted, hquote, hslash, quotedBody, ih]

theorem quotedText_quoted (text : String) (rest : List Char) :
    quotedText (quoted text ++ rest) = some (text, rest) := by
  have hopen : literal "\"" (quoted text ++ rest) =
      some ((), text.toList.flatMap escapeQuoted ++ '"' :: rest) :=
    literal_eq_some.mpr (by simp [quoted])
  rw [quotedText, bind_of_eq_some hopen,
    bind_of_eq_some (quotedBody_escaped text.toList rest), String.ofList_toList]
  rfl

/-- Every character of markup is an entity, or itself and no character of the markup language. -/
theorem escapeMarkup_cases (c : Char) :
    (∃ entity, (entity, c) ∈ markupEntities ∧ escapeMarkup c = entity.toList) ∨
      c ≠ '&' ∧ c ≠ '<' ∧ c ≠ '>' ∧ c ≠ '"' ∧ escapeMarkup c = [c] := by
  unfold escapeMarkup
  split
  · exact .inl ⟨"&amp;", by decide, rfl⟩
  · exact .inl ⟨"&lt;", by decide, rfl⟩
  · exact .inl ⟨"&gt;", by decide, rfl⟩
  · exact .inl ⟨"&quot;", by decide, rfl⟩
  · next hamp hlt hgt hquot => exact .inr ⟨hamp, hlt, hgt, hquot, rfl⟩

theorem markupChar_escaped (c : Char) (rest : List Char) :
    markupChar (escapeMarkup c ++ rest) = some (c, rest) := by
  rw [markupChar]
  rcases escapeMarkup_cases c with ⟨entity, hmem, he⟩ | ⟨hamp, hlt, hgt, hquot, he⟩
  · rw [he]
    exact orElse_of_eq_some (oneOf_append (by decide) hmem rest) _
  · have hnone : oneOf markupEntities (c :: rest) = none := by
      simp [oneOf, markupEntities, after?, Ne.symm hamp]
    rw [he, List.singleton_append, orElse_of_eq_none hnone]
    simp [satisfy, hamp, hlt, hgt, hquot]

theorem notMem_markup (text : String) : '<' ∉ markup text ∧ '>' ∉ markup text := by
  have hchar : ∀ c, '<' ∉ escapeMarkup c ∧ '>' ∉ escapeMarkup c := by
    intro c
    rcases escapeMarkup_cases c with ⟨entity, hmem, he⟩ | ⟨-, hlt, hgt, -, he⟩
    · have hall : ∀ x ∈ markupEntities, '<' ∉ x.1.toList ∧ '>' ∉ x.1.toList := by decide
      rw [he]
      exact hall _ hmem
    · simp [he, Ne.symm hlt, Ne.symm hgt]
  simp only [markup, List.mem_flatMap, not_exists, not_and]
  exact ⟨fun c _ => (hchar c).1, fun c _ => (hchar c).2⟩

/-- Text without brackets does not change the depth. -/
theorem bracketBody_append {inner : List Char} (hlt : '<' ∉ inner) (hgt : '>' ∉ inner) (depth : Nat)
    (rest : List Char) : bracketBody depth (inner ++ rest) =
      (bracketBody depth rest).map fun r => (inner ++ r.1, r.2) := by
  induction inner with
  | nil => simp
  | cons c inner ih =>
    simp only [List.mem_cons, not_or] at hlt hgt
    have hstep : bracketBody depth (c :: (inner ++ rest)) =
        (bracketBody depth (inner ++ rest)).map fun r => (c :: r.1, r.2) := by
      rw [bracketBody, if_neg (Ne.symm hlt.1)]
      · exact fun _ h => absurd h.symm hgt.1
      · exact fun _ _ h => absurd h.symm hgt.1
    rw [List.cons_append, hstep, ih hlt.2 hgt.2, Option.map_map]
    rfl

theorem bracketed_underlined (text : String) (rest : List Char) :
    bracketed ("<<u>".toList ++ markup text ++ "</u>>".toList ++ rest) =
      some ("<u>".toList ++ markup text ++ "</u>".toList, rest) := by
  have hopen : literal "<" ("<<u>".toList ++ markup text ++ "</u>>".toList ++ rest) =
      some ((), "<u>".toList ++ markup text ++ "</u>>".toList ++ rest) :=
    literal_eq_some.mpr rfl
  obtain ⟨hlt, hgt⟩ := notMem_markup text
  rw [bracketed, bind_of_eq_some hopen]
  simp only [List.append_assoc]
  change bracketBody 0 ('<' :: 'u' :: '>' :: (markup text ++ ("</u>>".toList ++ rest))) = _
  simp [bracketBody, bracketBody_append hlt hgt]

theorem underlinedText_markup (text : String) :
    underlinedText.readAll ("<u>".toList ++ markup text ++ "</u>".toList) = some text := by
  have hmany : many markupChar (markup text ++ "</u>".toList) =
      some (text.toList, "</u>".toList) := by
    refine many_flatMap (fun _ => True) (fun c rest _ => markupChar_escaped c rest)
      (fun _ _ _ => trivial) (fun c => ?_) trivial (by decide) text.toList
    rcases escapeMarkup_cases c with ⟨entity, hmem, he⟩ | ⟨-, -, -, -, he⟩
    · have hall : ∀ x ∈ markupEntities, x.1.toList ≠ [] := by decide
      rw [he]
      exact hall _ hmem
    · simp [he]
  have hclose : literal "</u>" "</u>".toList = some ((), []) := by decide
  rw [readAll_eq_some, underlinedText, List.append_assoc, bind_of_eq_some (literal_append "<u>" _),
    bind_of_eq_some hmany, bind_of_eq_some hclose, String.ofList_toList]
  rfl

/-! ## Attributes -/

theorem shapeAttr_shape (s : Shape) (rest : List Char) :
    shapeAttr ("shape=".toList ++ s.name.toList ++ rest) = some (.shape s, rest) := by
  cases s <;> rfl

theorem setting_quoted (name : String) (attr : String → Attr) (text : String) (rest : List Char) :
    setting name attr (name.toList ++ quoted text ++ rest) = some (attr text, rest) := by
  rw [setting, List.append_assoc, bind_of_eq_some (literal_append name _),
    bind_of_eq_some (quotedText_quoted text rest)]
  rfl

theorem underlinedAttr_underlined (text : String) (rest : List Char) :
    underlinedAttr ("label=<<u>".toList ++ markup text ++ "</u>>".toList ++ rest) =
      some (.underlined text, rest) := by
  have hlabel : literal "label=" ("label=<<u>".toList ++ markup text ++ "</u>>".toList ++ rest) =
      some ((), "<<u>".toList ++ markup text ++ "</u>>".toList ++ rest) :=
    literal_eq_some.mpr rfl
  rw [underlinedAttr, bind_of_eq_some hlabel, bind_of_eq_some (bracketed_underlined text rest),
    underlinedText_markup]
  rfl

theorem penWidthAttr_digits (width : Nat) {rest : List Char} (h : Stops Char.isDigit rest) :
    penWidthAttr ("penwidth=".toList ++ Nat.toDigits 10 width ++ rest) =
      some (.penWidth width, rest) := by
  have hdigits : span1 Char.isDigit (Nat.toDigits 10 width ++ rest) =
      some (Nat.toDigits 10 width, rest) :=
    span1_eq_some.mpr ⟨Nat.toDigits_ne_nil, span_eq_some.mpr ⟨rfl,
      fun c hc => Nat.isDigit_of_mem_toDigits (by decide) (by decide) hc, h⟩⟩
  rw [penWidthAttr, List.append_assoc, bind_of_eq_some (literal_append _ _),
    bind_of_eq_some hdigits, Nat.ofDigitChars_ten_toDigits]
  rfl

/-- Attributes are told apart by what they start with, except that two kinds of label share a name
and differ in how the value is delimited. -/
theorem attr_spell (a : Attr) {rest : List Char} (h : Stops Char.isDigit rest) :
    attr (a.spell ++ rest) = some (a, rest) := by
  cases a with
  | shape s => exact orElse_of_eq_some (shapeAttr_shape s rest) _
  | doubled => rfl
  | dashed => rfl
  | filled color =>
    rw [attr, orElse_of_eq_none rfl, orElse_of_eq_none rfl]
    exact orElse_of_eq_some (setting_quoted _ _ color rest) _
  | label text =>
    -- the value starts with a quote, so it is no HTML value
    rw [attr, orElse_of_eq_none rfl, orElse_of_eq_none rfl, orElse_of_eq_none rfl,
      orElse_of_eq_none rfl]
    exact orElse_of_eq_some (setting_quoted _ _ text rest) _
  | underlined text =>
    rw [attr, orElse_of_eq_none rfl, orElse_of_eq_none rfl, orElse_of_eq_none rfl]
    exact orElse_of_eq_some (underlinedAttr_underlined text rest) _
  | tailLabel text =>
    rw [attr, orElse_of_eq_none rfl, orElse_of_eq_none rfl, orElse_of_eq_none rfl,
      orElse_of_eq_none rfl, orElse_of_eq_none rfl]
    exact orElse_of_eq_some (setting_quoted _ _ text rest) _
  | headLabel text =>
    rw [attr, orElse_of_eq_none rfl, orElse_of_eq_none rfl, orElse_of_eq_none rfl,
      orElse_of_eq_none rfl, orElse_of_eq_none rfl, orElse_of_eq_none rfl]
    exact orElse_of_eq_some (setting_quoted _ _ text rest) _
  | penWidth width =>
    rw [attr, orElse_of_eq_none rfl, orElse_of_eq_none rfl, orElse_of_eq_none rfl,
      orElse_of_eq_none rfl, orElse_of_eq_none rfl, orElse_of_eq_none rfl, orElse_of_eq_none rfl]
    exact penWidthAttr_digits width h

/-- An attribute behind the first one. -/
def spellNext (a : Attr) : List Char := ", ".toList ++ a.spell

theorem spellAttrs_cons (a : Attr) (list : List Attr) :
    spellAttrs (a :: list) = '[' :: (a.spell ++ (list.flatMap spellNext ++ [']'])) := by
  have hjoin : List.intercalate ", ".toList ((a :: list).map Attr.spell) =
      a.spell ++ list.flatMap spellNext := by
    induction list generalizing a with
    | nil => simp
    | cons b list ih =>
      rw [List.map_cons, List.map_cons, List.intercalate_cons_cons, ← List.map_cons, ih,
        List.flatMap_cons, spellNext]
      simp only [List.append_assoc]
  rw [spellAttrs, hjoin, List.cons_append, List.append_assoc]

theorem stops_spellNext (list : List Attr) (rest : List Char) :
    Stops Char.isDigit (list.flatMap spellNext ++ ']' :: rest) := by
  cases list with
  | nil => exact stops_cons.mpr (by decide)
  | cons a list => exact stops_cons.mpr (by decide)

theorem attrTail_spellNext (list : List Attr) (rest : List Char) :
    attrTail (list.flatMap spellNext ++ ']' :: rest) = some (list, ']' :: rest) := by
  have hread : ∀ (a : Attr) (more : List Char), Stops Char.isDigit more →
      (do literal ", "; attr : Scanner Attr) (spellNext a ++ more) = some (a, more) := by
    intro a more h
    rw [spellNext, List.append_assoc, bind_of_eq_some (literal_append ", " _)]
    exact attr_spell a h
  exact many_flatMap (Stops Char.isDigit) hread (fun _ _ _ => stops_cons.mpr (by decide))
    (fun _ => List.cons_ne_nil _ _) (stops_cons.mpr (by decide)) rfl list

theorem attrs_spell (list : List Attr) (rest : List Char) :
    attrs (spellAttrs list ++ rest) = some (list, rest) := by
  cases list with
  | nil => rfl
  | cons a list =>
    have hopen : literal "[" (spellAttrs (a :: list) ++ rest) =
        some ((), a.spell ++ (list.flatMap spellNext ++ ']' :: rest)) :=
      literal_eq_some.mpr (by simp [spellAttrs_cons])
    have hlist : (do return (← attr) :: (← attrTail) : Scanner (List Attr))
        (a.spell ++ (list.flatMap spellNext ++ ']' :: rest)) = some (a :: list, ']' :: rest) := by
      rw [bind_of_eq_some (attr_spell a (stops_spellNext list rest)),
        bind_of_eq_some (attrTail_spellNext list rest)]
      rfl
    have hclose : literal "]" (']' :: rest) = some ((), rest) := literal_append "]" rest
    rw [attrs, bind_of_eq_some hopen, bind_of_eq_some (orElse_of_eq_some hlist _),
      bind_of_eq_some hclose]
    rfl

/-! ## Statements and documents -/

theorem nodeTail_spell (id : String) (list : List Attr) (rest : List Char) :
    nodeTail id (' ' :: spellAttrs list ++ rest) = some (.node id list, rest) := by
  have hblank : literal " " (' ' :: spellAttrs list ++ rest) = some ((), spellAttrs list ++ rest) :=
    literal_append " " _
  rw [nodeTail, bind_of_eq_some hblank, bind_of_eq_some (attrs_spell list rest)]
  rfl

/-- A connector ends with its second identifier or with attributes, and a semicolon follows. -/
theorem connectorTail_spell (tail head : String) (list : List Attr) (rest : List Char) :
    connectorTail tail (" -> ".toList ++ quoted head ++
      (if list = [] then [] else ' ' :: spellAttrs list) ++ (";\n".toList ++ rest)) =
      some (.connector tail head list, ";\n".toList ++ rest) := by
  have hlist : ((do literal " "; attrs) <|> pure [] : Scanner (List Attr))
      ((if list = [] then [] else ' ' :: spellAttrs list) ++ (";\n".toList ++ rest)) =
      some (list, ";\n".toList ++ rest) := by
    by_cases h : list = []
    · subst h
      rfl
    · rw [if_neg h]
      refine orElse_of_eq_some ?_ _
      have hblank : literal " " (' ' :: spellAttrs list ++ (";\n".toList ++ rest)) =
          some ((), spellAttrs list ++ (";\n".toList ++ rest)) := literal_append " " _
      rw [bind_of_eq_some hblank]
      exact attrs_spell list _
  simp only [List.append_assoc]
  rw [connectorTail, bind_of_eq_some (literal_append " -> " _),
    bind_of_eq_some (quotedText_quoted head _), bind_of_eq_some hlist]
  rfl

theorem spell_connector (tail head : String) (list : List Attr) :
    (Statement.connector tail head list).spell = quoted tail ++ (" -> ".toList ++ quoted head ++
      (if list = [] then [] else ' ' :: spellAttrs list)) := by
  cases list with
  | nil => simp [Statement.spell]
  | cons a list => simp [Statement.spell]

theorem statement_print (s : Statement) (rest : List Char) :
    statement (s.print ++ rest) = some (s, rest) := by
  have hend : literal ";\n" (";\n".toList ++ rest) = some ((), rest) := literal_append _ rest
  rw [Statement.print, List.append_assoc, List.append_assoc, statement,
    bind_of_eq_some (literal_append "  " _)]
  cases s with
  | node id list =>
    rw [Statement.spell, List.append_assoc, bind_of_eq_some (quotedText_quoted id _)]
    have htail := nodeTail_spell id list (";\n".toList ++ rest)
    rw [bind_of_eq_some ((orElse_of_eq_none rfl _).trans htail), bind_of_eq_some hend]
    rfl
  | connector tail head list =>
    rw [spell_connector, List.append_assoc, bind_of_eq_some (quotedText_quoted tail _)]
    have htail := connectorTail_spell tail head list rest
    rw [bind_of_eq_some (orElse_of_eq_some htail _), bind_of_eq_some hend]
    rfl

theorem readHeading_heading (direction : Direction) (rest : List Char) :
    readHeading (heading direction ++ rest) = some (direction, rest) := by
  cases direction <;> rfl

/-- Any document is read back from its print, from end to end. -/
theorem read?_print (d : Document) : Document.read? d.print = some d := by
  have hmany : many statement (d.statements.flatMap Statement.print ++ closing) =
      some (d.statements, closing) :=
    many_flatMap (fun _ => True) (fun s rest _ => statement_print s rest) (fun _ _ _ => trivial)
      (fun _ => List.cons_ne_nil _ _) trivial rfl d.statements
  have hclose : literal "\x7d\n" closing = some ((), []) := rfl
  rw [Document.read?, readAll_eq_some, Document.print, String.toList_ofList, List.append_assoc,
    readDocument, bind_of_eq_some (readHeading_heading d.direction _), bind_of_eq_some hmany,
    bind_of_eq_some hclose]
  rfl

/-! ## Diagrams -/

theorem attributeId_eq (owner name : String) : attributeId owner name = owner ++ "_" ++ name := by
  simp [attributeId, joinId, String.intercalate_cons_cons]

theorem partId_eq (owner name part : String) :
    partId owner name part = owner ++ "_" ++ name ++ "_" ++ part := by
  simp [partId, joinId, String.intercalate_cons_cons, String.append_assoc]

theorem triangleId_eq (supertype : String) (position : Nat) :
    triangleId supertype position = supertype ++ "_ISA_" ++ toString position := by
  have hisa : "_ISA_" = "_" ++ "ISA" ++ "_" := rfl
  simp only [triangleId, joinId, String.intercalate_cons_cons, String.intercalate_singleton, hisa,
    String.append_assoc]

theorem ofEntity_eq (theme : Option Theme) (e : Entity) : ofEntity theme e =
    .node e.name (match e.weak, theme with
      | false, none => [.shape .rectangle]
      | false, some t => [.shape .rectangle, .filled t.entity]
      | true, none => [.shape .rectangle, .doubled]
      | true, some t => [.shape .rectangle, .doubled, .filled t.weakEntity]) := by
  obtain ⟨name, weak⟩ := e
  cases weak <;> cases theme <;> rfl

theorem ofRelationship_eq (theme : Option Theme) (r : Relationship) : ofRelationship theme r =
    .node r.name (match r.identifying, theme with
      | false, none => [.shape .diamond]
      | false, some t => [.shape .diamond, .filled t.relationship]
      | true, none => [.shape .diamond, .doubled]
      | true, some t => [.shape .diamond, .doubled, .filled t.relationship]) := by
  obtain ⟨name, identifying⟩ := r
  cases identifying <;> cases theme <;> rfl

theorem penWidth_eq (p : Endpoint) :
    penWidth p = if p.participation = some .total then 3 else 1 := by
  simp only [penWidth, Endpoint.isTotal, decide_eq_true_eq]

/-- The drawing of a diagram is read back as its direction and its statements, section by section,
whatever texts the diagram holds. -/
theorem read?_render (d : Diagram) (direction : Direction) :
    let mark (c : Cardinality) : String := match c with
      | .one => "1"
      | .n => "N"
      | .m => "M"
    let width (p : Endpoint) : Nat := if p.participation = some .total then 3 else 1
    Document.read? (render d direction) = some {
      direction
      statements :=
        d.entities.values.map (fun e =>
          .node e.name (match e.weak, d.theme with
            | false, none => [.shape .rectangle]
            | false, some t => [.shape .rectangle, .filled t.entity]
            | true, none => [.shape .rectangle, .doubled]
            | true, some t => [.shape .rectangle, .doubled, .filled t.weakEntity])) ++
        d.relationships.values.map (fun r =>
          .node r.name (match r.identifying, d.theme with
            | false, none => [.shape .diamond]
            | false, some t => [.shape .diamond, .filled t.relationship]
            | true, none => [.shape .diamond, .doubled]
            | true, some t => [.shape .diamond, .doubled, .filled t.relationship])) ++
        d.attributes.flatMap (fun a =>
          [.node (a.owner ++ "_" ++ a.name) (match a.kind with
             | .plain => [.shape .ellipse, .label a.name]
             | .primaryKey => [.shape .ellipse, .underlined a.name]
             | .multivalued => [.shape .ellipse, .label a.name, .doubled]
             | .derived => [.shape .ellipse, .label a.name, .dashed]),
           .connector a.owner (a.owner ++ "_" ++ a.name) []]) ++
        d.composites.flatMap (fun c =>
          [.node (c.owner ++ "_" ++ c.name) [.shape .ellipse, .label c.name],
           .connector c.owner (c.owner ++ "_" ++ c.name) []] ++
          c.parts.flatMap fun part =>
            [.node (c.owner ++ "_" ++ c.name ++ "_" ++ part) [.shape .ellipse, .label part],
             .connector (c.owner ++ "_" ++ c.name) (c.owner ++ "_" ++ c.name ++ "_" ++ part) []]) ++
        d.generalizations.zipIdx.flatMap (fun (i, n) =>
          [.node (i.supertype ++ "_ISA_" ++ toString n) [.shape .triangle, .label "ISA"],
           .connector i.supertype (i.supertype ++ "_ISA_" ++ toString n) []] ++
          i.subtypes.map fun sub => .connector (i.supertype ++ "_ISA_" ++ toString n) sub []) ++
        d.edges.flatMap (fun e => match e.relationship with
          | some r =>
            [.connector r e.tail.entity
               [.label (mark e.tail.cardinality), .penWidth (width e.tail)],
             .connector r e.head.entity
               [.label (mark e.head.cardinality), .penWidth (width e.head)]]
          | none =>
            [.connector e.tail.entity e.head.entity
               [.tailLabel (mark e.tail.cardinality), .headLabel (mark e.head.cardinality),
                .penWidth (max (width e.tail) (width e.head))]]) } := by
  intro mark width
  have hentity : ofEntity d.theme = fun e => _ := funext (ofEntity_eq d.theme)
  have hrelationship : ofRelationship d.theme = fun r => _ := funext (ofRelationship_eq d.theme)
  have hwidth : penWidth = width := funext penWidth_eq
  rw [render, read?_print, document, statements, generalizationStatements, hentity, hrelationship]
  unfold ofAttribute ofComposite ofGeneralization ofEdge hang
  simp only [attributeId_eq, partId_eq, triangleId_eq, hwidth]
  rfl

end ChenDiagram.Dot
