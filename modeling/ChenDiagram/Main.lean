import ChenDiagram.Command.Run

/-! The command itself: its course over the files and streams of the operating system. -/

namespace ChenDiagram.Command

def usage : String :=
  "Compile Chen ER diagram notation into Graphviz DOT\n\n" ++
  "Usage: erdot [OPTIONS] [FILE]\n\n" ++
  "Arguments:\n" ++
  "  [FILE]  Input file (reads from stdin if not provided)\n\n" ++
  "Options:\n" ++
  "  -o, --output <OUTPUT>              Output file (writes to stdout if not provided)\n" ++
  "      --edge-grammar <EDGE_GRAMMAR>  Relationship edge syntax: `full` or `simplified`\n" ++
  "  -d, --direction <DIRECTION>        Layout direction hint: `LR` or `TB`\n" ++
  "      --strict                       Fail on lines that match no statement\n" ++
  "  -v, --verbose...                   Increase log verbosity" ++
  " (-v info, -vv debug, -vvv trace)\n" ++
  "  -h, --help                         Print help\n"

/-- The number of a system error, which some calls give negated. -/
def errorNumber (code : UInt32) : UInt32 := if code < 0x80000000 then code else 0 - code

/-- The cause behind an error of the operating system. -/
def faultOf (e : IO.Error) : Fault :=
  match e with
  | .noFileOrDirectory .. => .notFound
  | .inappropriateType _ code _ =>
    match errorNumber code with
    | 20 => .notADirectory
    | 21 => .isADirectory
    | _ => .other (toString e)
  | .resourceExhausted none code _ =>
    if errorNumber code = 28 then .noSpace else .other (toString e)
  | _ => .other (toString e)

def attempt {α : Type} (action : IO α) : IO (Except Fault α) := do
  try return .ok (← action)
  catch e => return .error (faultOf e)

/-- The operating system as a host. Standard output is flushed before a write counts as done. -/
def host : Host IO where
  readFile path := attempt (IO.FS.readBinFile path)
  readStdin := attempt do (← IO.getStdin).readBinToEnd
  writeFile path bytes := attempt (IO.FS.writeBinFile path bytes)
  writeStdout bytes := attempt do
    let stdout ← IO.getStdout
    stdout.write bytes
    stdout.flush
  log events := do (← IO.getStderr).putStr (report events none)
  fail e := do (← IO.getStderr).putStr (report [] (some e))
  refuse
    | .help => do (← IO.getStdout).putStr usage
    | .usage => do (← IO.getStderr).putStr usage

end ChenDiagram.Command

open ChenDiagram.Command in
def main (args : List String) : IO UInt32 := do
  let env ← Environment.lookup fun name => IO.getEnv name
  return (← command host env args).toUInt32
