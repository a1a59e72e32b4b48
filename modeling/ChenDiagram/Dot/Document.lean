import ChenDiagram.Options

/-! The DOT documents that diagrams are drawn as: a direction and a list of statements, with a
fixed heading. Attributes are kept by meaning and get their spelling only when printed. -/

namespace ChenDiagram

/-! ## Texts

A quoted string escapes the quote and the backslash; markup escapes the four characters that would
end or nest a tag, an entity or an attribute value. Either way any text may be written, the empty
one and control characters included. -/

namespace Text

/-- A quote or a backslash takes a backslash in front of it. -/
def escapeQuoted (c : Char) : List Char :=
  if c = '"' ∨ c = '\\' then ['\\', c] else [c]

/-- A text between double quotes. -/
def quoted (text : String) : List Char :=
  '"' :: text.toList.flatMap escapeQuoted ++ ['"']

/-- The entity that stands for a character of markup. -/
def escapeMarkup (c : Char) : List Char :=
  match c with
  | '&' => "&amp;".toList
  | '<' => "&lt;".toList
  | '>' => "&gt;".toList
  | '"' => "&quot;".toList
  | _ => [c]

/-- A text as the content of an element. -/
def markup (text : String) : List Char := text.toList.flatMap escapeMarkup

end Text

/-! ## Documents -/

namespace Dot
open Text

inductive Shape where
  | rectangle
  | diamond
  | ellipse
  | triangle
deriving DecidableEq, Repr

def Shape.name : Shape → String
  | .rectangle => "rectangle"
  | .diamond => "diamond"
  | .ellipse => "ellipse"
  | .triangle => "triangle"

inductive Attr where
  | shape (shape : Shape)
  /-- A double outline. -/
  | doubled
  | dashed
  | filled (color : String)
  | label (text : String)
  /-- A label with a line under it. -/
  | underlined (text : String)
  | tailLabel (text : String)
  | headLabel (text : String)
  | penWidth (width : Nat)
deriving DecidableEq, Repr

inductive Statement where
  | node (id : String) (attrs : List Attr)
  | connector (tail head : String) (attrs : List Attr)
deriving DecidableEq, Repr

structure Document where
  direction : Direction
  statements : List Statement
deriving DecidableEq, Repr

/-- A fill is two settings, style and colour. -/
def Attr.spell : Attr → List Char
  | .shape s => "shape=".toList ++ s.name.toList
  | .doubled => "peripheries=2".toList
  | .dashed => "style=dashed".toList
  | .filled color => "style=filled, fillcolor=".toList ++ quoted color
  | .label text => "label=".toList ++ quoted text
  | .underlined text => "label=<<u>".toList ++ markup text ++ "</u>>".toList
  | .tailLabel text => "taillabel=".toList ++ quoted text
  | .headLabel text => "headlabel=".toList ++ quoted text
  | .penWidth width => "penwidth=".toList ++ Nat.toDigits 10 width

def spellAttrs (attrs : List Attr) : List Char :=
  '[' :: List.intercalate ", ".toList (attrs.map Attr.spell) ++ [']']

namespace Statement

/-- A connector without attributes has no brackets. -/
def spell : Statement → List Char
  | .node id attrs => quoted id ++ ' ' :: spellAttrs attrs
  | .connector tail head [] => quoted tail ++ " -> ".toList ++ quoted head
  | .connector tail head attrs =>
    quoted tail ++ " -> ".toList ++ quoted head ++ ' ' :: spellAttrs attrs

/-- Statements stand indented, one after another, each with its semicolon and line feed. -/
def print (s : Statement) : List Char := "  ".toList ++ s.spell ++ ";\n".toList

end Statement

/-- Opens the graph and sets the defaults of graph, nodes and edges. -/
def heading (d : Direction) : List Char :=
  "digraph ER \x7b\n".toList ++
  "  graph [rankdir=".toList ++ d.rank.toList ++
    ", splines=true, nodesep=1.1, overlap=false];\n".toList ++
  "  node [fontname=\"Helvetica\"];\n".toList ++
  "  edge [arrowhead=none];\n".toList

def closing : List Char := "\x7d\n".toList

def Document.print (d : Document) : String :=
  String.ofList (heading d.direction ++ d.statements.flatMap Statement.print ++ closing)

end Dot
end ChenDiagram
