import ChenDiagram.Compile

/-! Command-line arguments. Each argument is spelled out into items without looking further; an
option that still lacks its value takes the next argument. Items are then collected left to right,
so the first fault decides. -/

namespace ChenDiagram.Command
open Source Dot

/-- Options that take a value. -/
inductive Valued where
  | output
  | edgeGrammar
  | direction
deriving DecidableEq, Repr

/-- What an argument, or a letter of a cluster, asks for. -/
inductive Item where
  | file (path : String)
  | value (option : Valued) (text : String)
  | strict
  | verbose
  | help
  | invalid
deriving DecidableEq, Repr

/-- Text in place of a separate value: a lone dash, or anything that does not start with one. -/
def isValue (arg : String) : Bool := arg = "-" || arg.toList.head? ≠ some '-'

/-- A value written against its letter may have an equals sign in front. -/
def attached (option : Valued) : List Char → List Item × Option Valued
  | [] => ([], some option)
  | '=' :: text => ([.value option (String.ofList text)], none)
  | text => ([.value option (String.ofList text)], none)

/-- Letters after one dash. A letter that takes a value takes the rest of the cluster. -/
def ofCluster : List Char → List Item × Option Valued
  | [] => ([], none)
  | 'v' :: rest => let (items, waiting) := ofCluster rest; (.verbose :: items, waiting)
  | 'h' :: _ => ([.help], none)
  | 'o' :: rest => attached .output rest
  | 'd' :: rest => attached .direction rest
  | _ :: _ => ([.invalid], none)

/-- A name after two dashes, with the text after its first equals sign if it has one. -/
def ofLong (name : String) (text : Option String) : List Item × Option Valued :=
  let valued (option : Valued) := match text with
    | some text => ([.value option text], none)
    | none => ([], some option)
  let flag (item : Item) := ([if text.isSome then .invalid else item], none)
  match name with
  | "output" => valued .output
  | "edge-grammar" => valued .edgeGrammar
  | "direction" => valued .direction
  | "strict" => flag .strict
  | "verbose" => flag .verbose
  | "help" => flag .help
  | _ => ([.invalid], none)

/-- The items of one argument, and the option it leaves without a value. -/
def ofArgument (arg : String) : List Item × Option Valued :=
  match arg.toList with
  | '-' :: '-' :: long =>
    ofLong (String.ofList (long.takeWhile (· ≠ '=')))
      ((long.dropWhile (· ≠ '=')).tail?.map String.ofList)
  | '-' :: c :: cluster => ofCluster (c :: cluster)
  | _ => ([.file arg], none)

/-- Items in order. After a bare double dash every argument is a file. -/
def items (waiting : Option Valued) : List String → List Item
  | [] => if waiting.isSome then [.invalid] else []
  | arg :: rest =>
    match waiting with
    | some option => if isValue arg then .value option arg :: items none rest else [.invalid]
    | none =>
      if arg = "--" then rest.map .file
      else let (found, waiting) := ofArgument arg; found ++ items waiting rest

/-- What the arguments say. -/
structure Given where
  file : Option String := none
  output : Option String := none
  grammar : Option EdgeGrammar := none
  direction : Option Direction := none
  strict : Bool := false
  verbosity : Nat := 0
deriving DecidableEq, Repr, Inhabited

/-- Why nothing is run. -/
inductive Refusal where
  | help
  | usage
deriving DecidableEq, Repr

namespace Given

/-- Everything but verbosity may be given once, paths are not empty, and names must be known. -/
def take (given : Given) : Item → Except Refusal Given
  | .file path =>
    if path.isEmpty || given.file.isSome then .error .usage
    else .ok { given with file := some path }
  | .value .output path =>
    if path.isEmpty || given.output.isSome then .error .usage
    else .ok { given with output := some path }
  | .value .edgeGrammar name =>
    match EdgeGrammar.ofName name, given.grammar with
    | .ok g, none => .ok { given with grammar := some g }
    | _, _ => .error .usage
  | .value .direction name =>
    match Direction.ofName name, given.direction with
    | .ok d, none => .ok { given with direction := some d }
    | _, _ => .error .usage
  | .strict => if given.strict then .error .usage else .ok { given with strict := true }
  | .verbose => .ok { given with verbosity := given.verbosity + 1 }
  | .help => .error .help
  | .invalid => .error .usage

def ofArguments (args : List String) : Except Refusal Given :=
  (items none args).foldlM take {}

end Given

/-- Settings that stand in for options that are not given. -/
structure Environment where
  edgeGrammar : Option String := none
  direction : Option String := none
deriving DecidableEq, Repr, Inhabited

/-- Looks each setting up under the name of its variable. -/
def Environment.lookup {m : Type → Type} [Monad m] (get : String → m (Option String)) :
    m Environment := do
  let edgeGrammar ← get "ERDOT_EDGE_GRAMMAR"
  let direction ← get "ERDOT_DIRECTION"
  return { edgeGrammar, direction }

/-- What to do: where to read, how to compile, where to write and how much to tell. -/
structure Request where
  file : Option String
  output : Option String
  options : Options
  verbosity : Nat
deriving DecidableEq, Repr

/-- A given value wins, then the environment's text, then the default. The text is read only if no
value is given, and then it must be a known name. -/
def resolve {ε α : Type} (given : Option α) (setting : Option String)
    (read : String → Except ε α) (default : α) : Except Refusal α :=
  match given, setting with
  | some a, _ => .ok a
  | none, none => .ok default
  | none, some text => (read text).mapError fun _ => .usage

def Request.ofGiven (env : Environment) (given : Given) : Except Refusal Request := do
  let grammar ← resolve given.grammar env.edgeGrammar EdgeGrammar.ofName .full
  let direction ← resolve given.direction env.direction Direction.ofName .leftRight
  return {
    file := given.file
    output := given.output
    options := { grammar, direction, strict := given.strict }
    verbosity := given.verbosity }

def Request.ofArguments (env : Environment) (args : List String) : Except Refusal Request := do
  Request.ofGiven env (← Given.ofArguments args)

end ChenDiagram.Command
