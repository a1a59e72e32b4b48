/-! What a compilation can be asked for, and everything that can stop one, by cause. -/

namespace ChenDiagram

/-! ## Errors

The wording stands in `Error.message` only. -/

/-- Why a file or a stream could not be read or written. -/
inductive Fault where
  | notFound
  | notADirectory
  | isADirectory
  | noSpace
  | invalidText
  | other (text : String)
deriving DecidableEq, Repr

def Fault.message : Fault → String
  | .notFound => "No such file or directory (os error 2)"
  | .notADirectory => "Not a directory (os error 20)"
  | .isADirectory => "Is a directory (os error 21)"
  | .noSpace => "No space left on device (os error 28)"
  | .invalidText => "stream did not contain valid UTF-8"
  | .other text => text

inductive Error where
  /-- Strict compilation met `count` lines that no rule accepts, the first of them at `line`. -/
  | unrecognizedLines (count line : Nat) (text : String)
  | unknownEdgeGrammar (name : String)
  | unknownDirection (name : String)
  | unreadableFile (path : String) (fault : Fault)
  | unreadableStdin (fault : Fault)
  | unwritableFile (path : String) (fault : Fault)
  | unwritableStdout (fault : Fault)
deriving DecidableEq, Repr

/-- Names, paths and lines are shown as given, without escapes. -/
def Error.message : Error → String
  | .unrecognizedLines count line text =>
    toString count ++ " unrecognized line(s); first at line " ++ toString line ++ ": `" ++
      text ++ "`"
  | .unknownEdgeGrammar name =>
    "unknown edge grammar `" ++ name ++ "` (expected `full` or `simplified`)"
  | .unknownDirection name => "unknown direction `" ++ name ++ "` (expected `LR` or `TB`)"
  | .unreadableFile path fault => "failed to read " ++ path ++ ": " ++ fault.message
  | .unreadableStdin fault => "failed to read stdin: " ++ fault.message
  | .unwritableFile path fault => "failed to write " ++ path ++ ": " ++ fault.message
  | .unwritableStdout fault => "failed to write stdout: " ++ fault.message

/-! ## Options -/

namespace Source

/-- Which shape of edge line is in force: `Rel A (1) TOTAL -- (N) PARTIAL B` or `A (1) -- (N) B`. -/
inductive EdgeGrammar where
  | full
  | simplified
deriving DecidableEq, Repr, Inhabited

/-- Names are compared without regard to the case of ASCII letters. -/
def EdgeGrammar.ofName (name : String) : Except Error EdgeGrammar :=
  match name.toLower with
  | "full" => .ok .full
  | "simplified" | "simple" => .ok .simplified
  | _ => .error (.unknownEdgeGrammar name)

end Source

namespace Dot

/-- Which way the ranks of the drawing run. -/
inductive Direction where
  | leftRight
  | topDown
deriving DecidableEq, Repr, Inhabited

namespace Direction

/-- Names are compared without regard to the case of ASCII letters. -/
def ofName (name : String) : Except Error Direction :=
  match name.toUpper with
  | "LR" => .ok .leftRight
  | "TB" | "TD" => .ok .topDown
  | _ => .error (.unknownDirection name)

def rank : Direction → String
  | .leftRight => "LR"
  | .topDown => "TB"

end Direction

end Dot

open Source Dot

structure Options where
  grammar : EdgeGrammar := .full
  direction : Direction := .leftRight
  strict : Bool := false
deriving DecidableEq, Repr, Inhabited

end ChenDiagram
