import ChenDiagram.Dot.Layout
import ChenDiagram.Source.Rule

/-! Notation in, DOT out. A text is read line by line, then drawn as a whole. Unrecognized lines are
reported beside the document; strict compilation refuses a text that has any. -/

namespace ChenDiagram

/-! ## Reading

A text is cut at its line feeds and each line is trimmed, so carriage returns and indentation are
never seen by the rules. -/

namespace Source
open Text

/-- Every line is exactly one of these. -/
inductive Line where
  | blank
  | comment
  | declared (rule : Rule) (declaration : Declaration)
  | unrecognized (text : String)
deriving DecidableEq, Repr

/-- Reads one line; the text of an unrecognized one is kept trimmed. -/
def Line.read (g : EdgeGrammar) (raw : List Char) : Line :=
  match trim raw with
  | [] => .blank
  | '#' :: _ => .comment
  | line => match classify g line with
    | some (rule, declaration) => .declared rule declaration
    | none => .unrecognized (String.ofList line)

/-- The lines of a text with their numbers, which start at one. -/
def readLines (g : EdgeGrammar) (text : String) : List (Nat × Line) :=
  (pieces '\n' text.toList).zipIdx.map fun (raw, i) => (i + 1, Line.read g raw)

/-- A line that was passed over. -/
structure Ignored where
  line : Nat
  text : String
deriving DecidableEq, Repr

def declarations (lines : List (Nat × Line)) : List Declaration :=
  lines.filterMap fun
    | (_, .declared _ declaration) => some declaration
    | _ => none

def ignoredLines (lines : List (Nat × Line)) : List Ignored :=
  lines.filterMap fun
    | (n, .unrecognized text) => some ⟨n, text⟩
    | _ => none

/-- What a text says, and what in it says nothing. -/
structure Parsed where
  diagram : Diagram
  ignored : List Ignored
deriving DecidableEq, Repr

def Parsed.ofLines (lines : List (Nat × Line)) : Parsed where
  diagram := .ofDeclarations (declarations lines)
  ignored := ignoredLines lines

/-- Reading never fails: lines that no rule accepts are set aside. -/
def parse (g : EdgeGrammar) (text : String) : Parsed := .ofLines (readLines g text)

/-- Same diagram up to the order of entities and of relationships, and same ignored lines. -/
def Parsed.sameContent (a b : Parsed) : Bool :=
  a.diagram.sameContent b.diagram && a.ignored = b.ignored

end Source

/-! ## Compiling -/

open Source Dot

structure Compiled where
  dot : String
  ignored : List Ignored
deriving DecidableEq, Repr

/-- The refusal names the first unrecognized line and counts them all. -/
def compileWith (o : Options) (text : String) : Except Error Compiled :=
  let parsed := parse o.grammar text
  match o.strict, parsed.ignored with
  | true, first :: rest => .error (.unrecognizedLines (rest.length + 1) first.line first.text)
  | _, ignored => .ok { dot := render parsed.diagram o.direction, ignored }

/-- Compilation with the defaults, which cannot fail. -/
def compile (text : String) : String := render (parse .full text).diagram .leftRight

end ChenDiagram
