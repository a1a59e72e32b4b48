import ChenDiagram.Compile
import ChenDiagram.Text.Visible

/-! What a run reports while it works. Events carry facts; levels, wording and fields are functions
of the event, so that choosing a verbosity only selects among the same events. -/

namespace ChenDiagram.Log
open Source

/-- From the most talkative to the least. -/
inductive Level where
  | trace
  | debug
  | info
  | warn
deriving DecidableEq, Repr

namespace Level

def name : Level → String
  | .trace => "TRACE"
  | .debug => "DEBUG"
  | .info => "INFO"
  | .warn => "WARN"

def severity : Level → Nat
  | .trace => 0
  | .debug => 1
  | .info => 2
  | .warn => 3

/-- The least severe level that is shown after so many requests for more output. -/
def ofVerbosity : Nat → Level
  | 0 => .warn
  | 1 => .info
  | 2 => .debug
  | _ => .trace

end Level

/-- How many of each thing a text holds. -/
structure Summary where
  entities : Nat
  relationships : Nat
  attributes : Nat
  composites : Nat
  generalizations : Nat
  edges : Nat
  ignored : Nat
deriving DecidableEq, Repr

def Summary.of (p : Parsed) : Summary where
  entities := p.diagram.entities.size
  relationships := p.diagram.relationships.size
  attributes := p.diagram.attributes.length
  composites := p.diagram.composites.length
  generalizations := p.diagram.generalizations.length
  edges := p.diagram.edges.length
  ignored := p.ignored.length

inductive Event where
  | classified (line : Nat) (rule : Rule)
  | passedOver (line : Nat) (text : String)
  | parsed (summary : Summary)
  /-- An unrecognized line, told again to the author of a compiled text. -/
  | ignored (line : Nat) (text : String)
  | compiled (bytes : Nat)
deriving DecidableEq, Repr

namespace Event

def level : Event → Level
  | .classified .. => .trace
  | .passedOver .. => .debug
  | .parsed .. => .debug
  | .ignored .. => .warn
  | .compiled .. => .info

def message : Event → String
  | .classified .. => "classified line"
  | .passedOver .. => "ignoring unrecognized line"
  | .parsed .. => "parsed ER diagram"
  | .ignored .. => "ignored unrecognized line"
  | .compiled .. => "compiled diagram"

/-- The part of the program that speaks. -/
def speaker : Event → String
  | .classified .. | .passedOver .. | .parsed .. => "erdot::er_parser"
  | .ignored .. | .compiled .. => "erdot"

end Event

/-- The value of a field: a number, a text shown as a literal, or a text shown as it is. -/
inductive Value where
  | number (n : Nat)
  | quoted (text : String)
  | raw (text : String)
deriving DecidableEq, Repr

def Value.text : Value → String
  | .number n => toString n
  | .quoted text => Text.visible text
  | .raw text => text

/-- Named fields, in the order in which they are shown. -/
def Event.fields : Event → List (String × Value)
  | .classified line rule => [("line_number", .number line), ("rule", .quoted rule.label)]
  | .passedOver line text => [("line_number", .number line), ("text", .quoted text)]
  | .parsed s =>
    [("entities", .number s.entities), ("relationships", .number s.relationships),
     ("attributes", .number s.attributes), ("composites", .number s.composites),
     ("generalizations", .number s.generalizations), ("edges", .number s.edges),
     ("ignored", .number s.ignored)]
  | .ignored line text => [("line", .number line), ("text", .raw text)]
  | .compiled bytes => [("bytes", .number bytes)]

/-- One log line: the level at the right of five columns, the speaker, the message, the fields. -/
def Event.text (e : Event) : String :=
  let level := e.level.name
  String.ofList (List.replicate (5 - level.length) ' ') ++ level ++ " " ++ e.speaker ++ ": " ++
    e.message ++ String.join (e.fields.map fun (name, value) => " " ++ name ++ "=" ++ value.text)

/-- The events that a threshold lets through. -/
def filter (threshold : Level) (events : List Event) : List Event :=
  events.filter fun e => threshold.severity ≤ e.level.severity

/-- What reading reports: each accepted and each unrecognized line in turn, then the summary. -/
def ofLines (lines : List (Nat × Line)) : List Event :=
  (lines.filterMap fun
    | (n, .declared rule _) => some (.classified n rule)
    | (n, .unrecognized text) => some (.passedOver n text)
    | _ => none) ++ [.parsed (.of (.ofLines lines))]

/-- The events of reading a text. -/
def ofText (g : EdgeGrammar) (text : String) : List Event := ofLines (readLines g text)

end ChenDiagram.Log
