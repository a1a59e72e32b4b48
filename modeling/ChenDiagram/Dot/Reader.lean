import ChenDiagram.Dot.Document
import ChenDiagram.Text.Scanner

/-! Reading DOT documents back, for the part of DOT that documents are printed in. -/

namespace ChenDiagram.Dot
open Text Scanner

/-- The text up to the closing quote. A backslash makes the character after it literal. -/
def quotedBody : List Char → Option (List Char × List Char)
  | [] => none
  | '"' :: rest => some ([], rest)
  | '\\' :: c :: rest => (quotedBody rest).map fun r => (c :: r.1, r.2)
  | c :: rest => (quotedBody rest).map fun r => (c :: r.1, r.2)

def quotedText : Scanner String := do
  literal "\""
  let body ← (quotedBody : Scanner (List Char))
  return String.ofList body

def markupEntities : List (String × Char) :=
  [("&amp;", '&'), ("&lt;", '<'), ("&gt;", '>'), ("&quot;", '"')]

/-- An entity, or a character that needs none. -/
def markupChar : Scanner Char :=
  oneOf markupEntities <|> satisfy fun c => c ≠ '&' && c ≠ '<' && c ≠ '>' && c ≠ '"'

/-- The text up to the bracket that closes it, where `depth` brackets have been opened inside. -/
def bracketBody : Nat → List Char → Option (List Char × List Char)
  | _, [] => none
  | 0, '>' :: rest => some ([], rest)
  | depth + 1, '>' :: rest => (bracketBody depth rest).map fun r => ('>' :: r.1, r.2)
  | depth, c :: rest =>
    (bracketBody (if c = '<' then depth + 1 else depth) rest).map fun r => (c :: r.1, r.2)

/-- An HTML value, from its opening bracket to the one that matches. -/
def bracketed : Scanner (List Char) := do
  literal "<"
  (bracketBody 0 : Scanner (List Char))

/-- What an HTML value says that is underlined as a whole. -/
def underlinedText : Scanner String := do
  literal "<u>"
  let body ← many markupChar
  literal "</u>"
  return String.ofList body

def shapes : List (String × Shape) :=
  [("rectangle", .rectangle), ("diamond", .diamond), ("ellipse", .ellipse),
   ("triangle", .triangle)]

/-- A name with its equals sign, and a quoted value. -/
def setting (name : String) (attr : String → Attr) : Scanner Attr := do
  literal name
  return attr (← quotedText)

def shapeAttr : Scanner Attr := do
  literal "shape="
  return .shape (← oneOf shapes)

def underlinedAttr : Scanner Attr := do
  literal "label="
  let value ← bracketed
  match underlinedText.readAll value with
  | some text => return .underlined text
  | none => failure

def penWidthAttr : Scanner Attr := do
  literal "penwidth="
  let digits ← span1 Char.isDigit
  return .penWidth (Nat.ofDigitChars 10 digits 0)

def attr : Scanner Attr :=
  shapeAttr <|> oneOf [("peripheries=2", .doubled), ("style=dashed", .dashed)] <|>
  setting "style=filled, fillcolor=" .filled <|> underlinedAttr <|> setting "label=" .label <|>
  setting "taillabel=" .tailLabel <|> setting "headlabel=" .headLabel <|> penWidthAttr

/-- Attributes after the first stand behind a comma and a space. -/
def attrTail : Scanner (List Attr) := many do
  literal ", "
  attr

def attrs : Scanner (List Attr) := do
  literal "["
  let list ← (do return (← attr) :: (← attrTail)) <|> pure []
  literal "]"
  return list

/-- What follows the first identifier of a connector. -/
def connectorTail (tail : String) : Scanner Statement := do
  literal " -> "
  let head ← quotedText
  let list ← (do literal " "; attrs) <|> pure []
  return .connector tail head list

/-- What follows the identifier of a node. -/
def nodeTail (id : String) : Scanner Statement := do
  literal " "
  return .node id (← attrs)

def statement : Scanner Statement := do
  literal "  "
  let id ← quotedText
  let s ← connectorTail id <|> nodeTail id
  literal ";\n"
  return s

/-- The graph is opened and the defaults are set; only the direction is left open. -/
def readHeading : Scanner Direction := do
  literal "digraph ER \x7b\n"
  literal "  graph [rankdir="
  let direction ← oneOf [("LR", .leftRight), ("TB", .topDown)]
  literal ", splines=true, nodesep=1.1, overlap=false];\n"
  literal "  node [fontname=\"Helvetica\"];\n"
  literal "  edge [arrowhead=none];\n"
  return direction

def readDocument : Scanner Document := do
  let direction ← readHeading
  let statements ← many statement
  literal "\x7d\n"
  return { direction, statements }

/-- The document that a text spells, if it is one from end to end. -/
def Document.read? (text : String) : Option Document := readDocument.readAll text.toList

end ChenDiagram.Dot
