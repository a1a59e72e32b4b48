import ChenDiagram.Source.Rule

/-! The notation as a grammar. `Denotes` says which lines belong to a rule and what each of them
declares, without saying how a line is read or in which order rules are tried. -/

namespace ChenDiagram.Source
open Text

/-- Blanks, perhaps none. -/
def IsGap (cs : List Char) : Prop := ∀ c ∈ cs, isBlank c = true

/-- At least one blank. -/
def IsBreak (cs : List Char) : Prop := cs ≠ [] ∧ IsGap cs

def IsName (cs : List Char) : Prop := cs ≠ [] ∧ ∀ c ∈ cs, isWordChar c = true

instance (cs : List Char) : Decidable (IsName cs) :=
  decidable_of_iff ((!cs.isEmpty && cs.all isWordChar) = true) (by simp [IsName])

/-- Text between two commas of a composite: no comma or closing brace, and not all white space. -/
def IsPart (cs : List Char) : Prop :=
  (∀ c ∈ cs, c ≠ ',' ∧ c ≠ '}') ∧ ∃ c ∈ cs, isSpace c = false

/-- Items with commas between them, each with its value. -/
inductive CommaList (item : List Char → String → Prop) : List Char → List String → Prop where
  | last {p : List Char} {value : String} : item p value → CommaList item p [value]
  | more {p rest : List Char} {value : String} {values : List String} :
      item p value → CommaList item rest values →
      CommaList item (p ++ ',' :: rest) (value :: values)

/-- A name with gaps around it. -/
def NameItem (cs : List Char) (name : String) : Prop :=
  ∃ a w b, cs = a ++ w ++ b ∧ IsGap a ∧ IsName w ∧ IsGap b ∧ name = String.ofList w

/-- White space around a part does not belong to it. -/
def PartItem (cs : List Char) (part : String) : Prop :=
  IsPart cs ∧ part = String.ofList (trim cs)

def channelWord : Channel → String
  | .entities => "entities"
  | .weakEntities => "weak_entities"
  | .relationships => "relationships"

def cardinalityMark : Cardinality → String
  | .one => "(1)"
  | .n => "(N)"
  | .m => "(M)"

/-- Plain attributes have no mark. -/
def kindMark : AttributeKind → Option String
  | .plain => none
  | .primaryKey => some "PK"
  | .multivalued => some "MULTI"
  | .derived => some "DERIVED"

/-- The lines of each rule with what they declare. Letters `b` stand for breaks, `z` for gaps. -/
inductive Denotes : Rule → List Char → Declaration → Prop where
  | color {channel : Channel} {z₁ z₂ digits : List Char} : IsGap z₁ → IsGap z₂ →
      (∀ c ∈ digits, isHexDigit c = true) → digits.length = 3 ∨ digits.length = 6 →
      Denotes .color ((channelWord channel).toList ++ z₁ ++ ':' :: z₂ ++ '#' :: digits)
        (.color channel (String.ofList ('#' :: digits)))
  | isa {b w z body : List Char} {names : List String} :
      IsBreak b → IsName w → IsGap z → CommaList NameItem body names →
      Denotes .isa ("ISA".toList ++ b ++ w ++ z ++ '{' :: body ++ ['}'])
        (.generalization ⟨String.ofList w, names⟩)
  | weakEntity {b₁ b₂ w : List Char} : IsBreak b₁ → IsBreak b₂ → IsName w →
      Denotes .weakEntity ("weak".toList ++ b₁ ++ "entity".toList ++ b₂ ++ w)
        (.entity ⟨String.ofList w, true⟩)
  | entity {b w : List Char} : IsBreak b → IsName w →
      Denotes .entity ("entity".toList ++ b ++ w) (.entity ⟨String.ofList w, false⟩)
  | identifyingRelationship {b₁ b₂ w : List Char} : IsBreak b₁ → IsBreak b₂ → IsName w →
      Denotes .identifyingRelationship
        ("identifying".toList ++ b₁ ++ "relationship".toList ++ b₂ ++ w)
        (.relationship ⟨String.ofList w, true⟩)
  | relationship {b w : List Char} : IsBreak b → IsName w →
      Denotes .relationship ("relationship".toList ++ b ++ w)
        (.relationship ⟨String.ofList w, false⟩)
  | composite {b₁ owner b₂ name z body : List Char} {parts : List String} :
      IsBreak b₁ → IsName owner → IsBreak b₂ → IsName name → IsGap z → CommaList PartItem body parts →
      Denotes .composite
        ("composite".toList ++ b₁ ++ owner ++ b₂ ++ name ++ z ++ '{' :: body ++ ['}'])
        (.composite ⟨String.ofList owner, String.ofList name, parts⟩)
  | plainAttribute {b₁ owner b₂ name : List Char} :
      IsBreak b₁ → IsName owner → IsBreak b₂ → IsName name →
      Denotes .attribute ("attribute".toList ++ b₁ ++ owner ++ b₂ ++ name)
        (.attribute ⟨String.ofList owner, String.ofList name, .plain⟩)
  | markedAttribute {b₁ owner b₂ name b₃ : List Char} {mark : String} {kind : AttributeKind} :
      IsBreak b₁ → IsName owner → IsBreak b₂ → IsName name → IsBreak b₃ →
      kindMark kind = some mark →
      Denotes .attribute
        ("attribute".toList ++ b₁ ++ owner ++ b₂ ++ name ++ b₃ ++ mark.toList)
        (.attribute ⟨String.ofList owner, String.ofList name, kind⟩)
  | edge {r b₁ v b₂ b₃ b₄ b₅ b₆ b₇ w : List Char} {c₁ c₂ : Cardinality} {p₁ p₂ : Participation} :
      IsName r → IsBreak b₁ → IsName v → IsBreak b₂ → IsBreak b₃ → IsBreak b₄ → IsBreak b₅ →
      IsBreak b₆ → IsBreak b₇ → IsName w →
      Denotes .edge
        (r ++ b₁ ++ v ++ b₂ ++ (cardinalityMark c₁).toList ++ b₃ ++ p₁.keyword.toList ++ b₄ ++
          "--".toList ++ b₅ ++ (cardinalityMark c₂).toList ++ b₆ ++ p₂.keyword.toList ++ b₇ ++ w)
        (.edge ⟨some (String.ofList r), ⟨String.ofList v, c₁, some p₁⟩,
          ⟨String.ofList w, c₂, some p₂⟩⟩)
  | simplifiedEdge {v b₁ b₂ b₃ b₄ w : List Char} {c₁ c₂ : Cardinality} :
      IsName v → IsBreak b₁ → IsBreak b₂ → IsBreak b₃ → IsBreak b₄ → IsName w →
      Denotes .simplifiedEdge
        (v ++ b₁ ++ (cardinalityMark c₁).toList ++ b₂ ++ "--".toList ++ b₃ ++
          (cardinalityMark c₂).toList ++ b₄ ++ w)
        (.edge ⟨none, ⟨String.ofList v, c₁, none⟩, ⟨String.ofList w, c₂, none⟩⟩)

/-! ## Diagrams

The diagrams that a text can describe, said of the diagram alone. -/

/-- A name that could stand in a text. -/
def Named (name : String) : Prop := IsName name.toList

/-- A part that could stand between the commas of one line: trimmed already and not empty. -/
def IsPartName (part : String) : Prop :=
  part ≠ "" ∧ trim part.toList = part.toList ∧
    ∀ c ∈ part.toList, c ≠ ',' ∧ c ≠ '}' ∧ c ≠ '\n'

/-- A hash and three or six hexadecimal digits. -/
def IsColor (color : String) : Prop :=
  ∃ digits : List Char, color.toList = '#' :: digits ∧
    (digits.length = 3 ∨ digits.length = 6) ∧ ∀ c ∈ digits, isHexDigit c = true

/-- Full edges name a relationship and both participations; simplified edges name none of them. -/
def EdgeFits : EdgeGrammar → Edge → Prop
  | .full, e => (∃ r, e.relationship = some r ∧ Named r) ∧
      e.tail.participation.isSome = true ∧ e.head.participation.isSome = true
  | .simplified, e => e.relationship = none ∧
      e.tail.participation = none ∧ e.head.participation = none

structure WellFormed (g : EdgeGrammar) (d : Diagram) : Prop where
  entityKeys : d.entities.keys.Nodup
  entities : ∀ e ∈ d.entities.entries, e.1 = e.2.name ∧ Named e.1
  relationshipKeys : d.relationships.keys.Nodup
  relationships : ∀ r ∈ d.relationships.entries, r.1 = r.2.name ∧ Named r.1
  attributes : ∀ a ∈ d.attributes, Named a.owner ∧ Named a.name
  composites : ∀ c ∈ d.composites, Named c.owner ∧ Named c.name ∧
    c.parts ≠ [] ∧ ∀ part ∈ c.parts, IsPartName part
  generalizations : ∀ i ∈ d.generalizations, Named i.supertype ∧
    i.subtypes ≠ [] ∧ ∀ name ∈ i.subtypes, Named name
  edges : ∀ e ∈ d.edges, Named e.tail.entity ∧ Named e.head.entity ∧ EdgeFits g e
  theme : ∀ t ∈ d.theme, ∀ channel : Channel, IsColor (t.color channel)

end ChenDiagram.Source
