import ChenDiagram.Command.Arguments
import ChenDiagram.Command.FileSystem
import ChenDiagram.Log.Event

/-! One run of the command. Its course is written once, over whatever carries out the reading and
writing: input is read in full, then compiled, then written. As a function of its arguments and
surroundings a run is that course over a state that records what was done. -/

namespace ChenDiagram.Command
open Log (Event Level)

def decode (bytes : ByteArray) : Except Fault String :=
  match String.fromUTF8? bytes with
  | some text => .ok text
  | none => .error .invalidText

/-- What lies between reading and writing: the events so far, and the document or the failure. -/
structure Work where
  events : List Event
  result : Except Error String

namespace Request

def readError (r : Request) (fault : Fault) : Error :=
  match r.file with
  | some path => .unreadableFile path fault
  | none => .unreadableStdin fault

def writeError (r : Request) (fault : Fault) : Error :=
  match r.output with
  | some path => .unwritableFile path fault
  | none => .unwritableStdout fault

/-- Reading events come first, whether or not compilation is refused; warnings and the size of the
document follow only if there is a document. -/
def work (r : Request) (input : Except Fault ByteArray) : Work :=
  match input.bind decode with
  | .error fault => ⟨[], .error (r.readError fault)⟩
  | .ok text =>
    let reading := Log.ofText r.options.grammar text
    match compileWith r.options text with
    | .error e => ⟨reading, .error e⟩
    | .ok c =>
      let warnings := c.ignored.map fun i => .ignored i.line i.text
      ⟨reading ++ warnings ++ [.compiled c.dot.utf8ByteSize], .ok c.dot⟩

end Request

/-! ## The course of a run -/

/-- What a run asks of the system that it runs on. -/
structure Host (m : Type → Type) where
  readFile : String → m (Except Fault ByteArray)
  readStdin : m (Except Fault ByteArray)
  writeFile : String → ByteArray → m (Except Fault Unit)
  writeStdout : ByteArray → m (Except Fault Unit)
  log : List Event → m Unit
  fail : Error → m Unit
  /-- Tells why a command line is not carried out. -/
  refuse : Refusal → m Unit

section
variable {m : Type → Type} [Monad m] (host : Host m)

def Host.abort (e : Error) : m Nat := do
  host.fail e
  return 1

namespace Request

/-- The input file if there is one, else standard input. -/
def fetch (r : Request) : m (Except Fault ByteArray) :=
  match r.file with
  | some path => host.readFile path
  | none => host.readStdin

/-- Writes a document, to the output file if there is one. -/
def deliver (r : Request) (dot : String) : m (Except Fault Unit) :=
  match r.output with
  | some path => host.writeFile path dot.toUTF8
  | none => host.writeStdout dot.toUTF8

/-- Writes the document if there is one. Whatever went wrong is told last. -/
def finish (r : Request) (result : Except Error String) : m Nat :=
  match result with
  | .error e => host.abort e
  | .ok dot => do
    match ← r.deliver host dot with
    | .ok () => return 0
    | .error fault => host.abort (r.writeError fault)

/-- Carries out a request and gives its exit code. The log is cut to the verbosity that was asked
for; nothing else depends on it. -/
def perform (r : Request) : m Nat := do
  let work := r.work (← r.fetch host)
  host.log (Log.filter (.ofVerbosity r.verbosity) work.events)
  r.finish host work.result

end Request

/-- The exit code of a run that was not started. -/
def Refusal.exitCode : Refusal → Nat
  | .help => 0
  | .usage => 2

/-- A refused command line reads and writes nothing. -/
def command (env : Environment) (args : List String) : m Nat :=
  match Request.ofArguments env args with
  | .ok r => r.perform host
  | .error refusal => do
    host.refuse refusal
    return refusal.exitCode

end

/-! ## Runs as a function -/

/-- A stream to write to: one without end, or one that fails beyond so many bytes. -/
inductive Sink where
  | endless
  | failing (room : Nat) (fault : Fault)
deriving DecidableEq, Repr

/-- What stands on a stream after writing to it. A write that fails has filled the stream. -/
def Sink.write (sink : Sink) (before bytes : ByteArray) : Except Fault Unit × ByteArray :=
  match sink with
  | .endless => (.ok (), before ++ bytes)
  | .failing room fault =>
    if (before ++ bytes).size ≤ room then (.ok (), before ++ bytes)
    else (.error fault, (before ++ bytes).extract 0 room)

/-- Everything a run can see, and where its output goes. -/
structure Surroundings (σ : Type) where
  stdin : Except Fault ByteArray := .ok .empty
  files : σ
  environment : Environment := {}
  stdout : Sink := .endless

/-- What a run has done so far. -/
structure Progress (σ : Type) where
  stdout : ByteArray := .empty
  events : List Event := []
  failure : Option Error := none
  files : σ

/-- What a run leaves behind. -/
structure Outcome (σ : Type) extends Progress σ where
  exitCode : Nat

section
variable {σ : Type}

/-- Events, one to a line, and the failure after them. -/
def report (events : List Event) (failure : Option Error) : String :=
  String.join (events.map fun e => e.text ++ "\n") ++
    (failure.map fun e => "ERROR: " ++ e.message ++ "\n").getD ""

def Outcome.stderr (o : Outcome σ) : String := report o.events o.failure

variable [FileSystem σ]

namespace Surroundings

/-- Surroundings as the host of a run, which reads standard input once at most. -/
def host (s : Surroundings σ) : Host (StateM (Progress σ)) where
  readFile path := do return FileSystem.read (← get).files path
  readStdin := return s.stdin
  writeFile path bytes := modifyGet fun p =>
    let written := FileSystem.write p.files path bytes
    (written.1, { p with files := written.2 })
  writeStdout bytes := modifyGet fun p =>
    let written := s.stdout.write p.stdout bytes
    (written.1, { p with stdout := written.2 })
  log events := modify fun p => { p with events := p.events ++ events }
  fail e := modify fun p => { p with failure := some e }
  refuse _ := return

/-- What an action comes to that is started here and ends in an exit code. -/
def outcome (s : Surroundings σ) (action : StateM (Progress σ) Nat) : Outcome σ :=
  let (exitCode, last) := action.run { files := s.files }
  { last with exitCode }

end Surroundings

def run (s : Surroundings σ) (args : List String) : Outcome σ :=
  s.outcome (command s.host s.environment args)

end
end ChenDiagram.Command
