import ChenDiagram.Model.Diagram
import ChenDiagram.Options
import ChenDiagram.Text.Characters
import ChenDiagram.Text.Scanner

/-! The line rules of the notation. A rule accepts a whole line or nothing; the rules in force are
tried in a fixed order and the first that accepts gives the reading. Keywords are not reserved, so
a line that its declaration rule refuses may still be an edge between entities so named. -/

namespace ChenDiagram.Source
open Text Scanner

/-! ## Tokens

Blanks, keywords, names, and two kinds of lists in braces. -/

/-- Blanks that may be missing. -/
def gap : Scanner Unit := do
  let _ ← span isBlank

/-- At least one blank. -/
def blanks : Scanner Unit := do
  let _ ← span1 isBlank

/-- A keyword and the blanks that end it. -/
def keyword (text : String) : Scanner Unit := do
  literal text
  blanks

def word : Scanner String := do
  let name ← span1 isWordChar
  return String.ofList name

/-- A comma and perhaps blanks around it. -/
def comma : Scanner Unit := do
  gap
  literal ","
  gap

/-- Names in braces, with commas between them. -/
def bracedNames : Scanner (List String) := do
  literal "\x7b"; gap
  let names ← separated word comma
  gap; literal "\x7d"
  return names

/-- Parts in braces. The body runs to the first closing brace and is cut at its commas; each piece
is trimmed, and one that is empty then spoils the whole list. -/
def bracedParts : Scanner (List String) := do
  literal "\x7b"
  let body ← span1 (· ≠ '}')
  literal "\x7d"
  let parts := (pieces ',' body).map trim
  if parts.all (!·.isEmpty) then return parts.map String.ofList else failure

/-! ## Rules -/

inductive Rule where
  | color
  | isa
  | weakEntity
  | entity
  | identifyingRelationship
  | relationship
  | composite
  | attribute
  | edge
  | simplifiedEdge
deriving DecidableEq, Repr

namespace Rule

def label : Rule → String
  | .color => "color"
  | .isa => "isa"
  | .weakEntity => "weak entity"
  | .entity => "entity"
  | .identifyingRelationship => "identifying relationship"
  | .relationship => "relationship"
  | .composite => "composite"
  | .attribute => "attribute"
  | .edge => "edge"
  | .simplifiedEdge => "simplified edge"

def channels : List (String × Channel) :=
  [("weak_entities", .weakEntities), ("entities", .entities), ("relationships", .relationships)]

def attributeKinds : List (String × AttributeKind) :=
  [("PK", .primaryKey), ("MULTI", .multivalued), ("DERIVED", .derived)]

def cardinalities : List (String × Cardinality) :=
  [("(1)", .one), ("(N)", .n), ("(M)", .m)]

def participations : List (String × Participation) :=
  [("TOTAL", .total), ("PARTIAL", .part)]

/-- The notation of each rule. Colours have three or six hexadecimal digits and keep their `#`;
subtypes are names, while parts of a composite are any text that is not all white space. -/
def scan : Rule → Scanner Declaration
  | .color => do
    let channel ← oneOf channels
    gap; literal ":"; gap; literal "#"
    let digits ← span isHexDigit
    if digits.length = 3 ∨ digits.length = 6 then
      return .color channel (String.ofList ('#' :: digits))
    else failure
  | .isa => do
    keyword "ISA"
    let supertype ← word
    gap
    let subtypes ← bracedNames
    return .generalization { supertype, subtypes }
  | .weakEntity => do
    keyword "weak"; keyword "entity"
    return .entity { name := ← word, weak := true }
  | .entity => do
    keyword "entity"
    return .entity { name := ← word, weak := false }
  | .identifyingRelationship => do
    keyword "identifying"; keyword "relationship"
    return .relationship { name := ← word, identifying := true }
  | .relationship => do
    keyword "relationship"
    return .relationship { name := ← word, identifying := false }
  | .composite => do
    keyword "composite"
    let owner ← word
    blanks
    let name ← word
    gap
    let parts ← bracedParts
    return .composite { owner, name, parts }
  | .attribute => do
    keyword "attribute"
    let owner ← word
    blanks
    let name ← word
    let kind ← (do blanks; oneOf attributeKinds) <|> pure .plain
    return .attribute { owner, name, kind }
  | .edge => do
    let relationship ← word
    blanks
    let tail ← word
    blanks
    let tailCardinality ← oneOf cardinalities
    blanks
    let tailParticipation ← oneOf participations
    blanks; literal "--"; blanks
    let headCardinality ← oneOf cardinalities
    blanks
    let headParticipation ← oneOf participations
    blanks
    let head ← word
    return .edge {
      relationship := some relationship
      tail := ⟨tail, tailCardinality, some tailParticipation⟩
      head := ⟨head, headCardinality, some headParticipation⟩ }
  | .simplifiedEdge => do
    let tail ← word
    blanks
    let tailCardinality ← oneOf cardinalities
    blanks; literal "--"; blanks
    let headCardinality ← oneOf cardinalities
    blanks
    let head ← word
    return .edge {
      relationship := none
      tail := ⟨tail, tailCardinality, none⟩
      head := ⟨head, headCardinality, none⟩ }

/-- The declaration that a line makes under this rule. -/
def read? (r : Rule) (line : List Char) : Option Declaration := r.scan.readAll line

/-- The rules in force under either grammar. -/
def declarationRules : List Rule :=
  [.color, .isa, .weakEntity, .entity, .identifyingRelationship, .relationship, .composite,
   .attribute]

def edgeRule : EdgeGrammar → Rule
  | .full => .edge
  | .simplified => .simplifiedEdge

/-- The rules in force, in the order in which they are tried. -/
def active (g : EdgeGrammar) : List Rule := declarationRules ++ [edgeRule g]

end Rule

/-- The first rule in force that accepts the line, and what the line then declares. -/
def classify (g : EdgeGrammar) (line : List Char) : Option (Rule × Declaration) :=
  (Rule.active g).findSome? fun r => (r.read? line).map (r, ·)

end ChenDiagram.Source
