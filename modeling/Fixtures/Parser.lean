import Fixtures.FileSystem.Basic
import Fixtures.Invocation
import Fixtures.Log
import Fixtures.ParserCommand

/-!
# Parsers

A parser takes the file system, a script and an output directory. It answers with an invocation or a
failure and leaves a new file system. A host is what can start programs; a command on a host is a
parser.
-/

namespace Fixtures

/-- What a parser notes about one invocation while it works. -/
structure Remark where
  /-- What happened. -/
  message : String
  /-- Names and values that go with it. -/
  fields : List (String × String)
  deriving DecidableEq, Repr

/-- The event of a remark. Remarks are for debugging. -/
def Remark.event (remark : Remark) : Log.Event where
  level := .debug
  target := "boinkgen::invoke::executable"
  message := remark.message
  fields := remark.fields

/-- What makes a parse tree of a script. -/
structure Parser where
  /-- Runs the parser on a script for an output directory. -/
  parse : FileSystem → Path → Path → Except Failure Invocation × FileSystem
  /-- The remarks on a run with the given answer. -/
  remarks : Path → Path → Except Failure Invocation → List Remark := fun _ _ _ => []

/-- Why a program was not started. -/
inductive StartError where
  /-- There is no such program. -/
  | missing
  /-- Something else stands in the way. -/
  | refused
  deriving DecidableEq, Repr

/-- What a program leaves behind. -/
structure Finished where
  /-- The exit code, absent if a signal ended the program. -/
  exitCode : Option Int
  /-- What it wrote to its standard output. -/
  stdout : Bytes
  /-- What it wrote to its standard error. -/
  stderr : Bytes
  deriving DecidableEq, Repr

/-- What can start a program, given with its arguments in one list, and wait for its end. -/
abbrev Host := FileSystem → List Bytes → Except StartError Finished × FileSystem

namespace ParserCommand

/-- The answer of a command whose program ended or was not started. -/
def answer (command : ParserCommand) (script outDir : Path) :
    Except StartError Finished → Except Failure Invocation
  | .ok finished =>
    .ok ⟨command.commandLine script outDir, finished.exitCode, finished.stdout, finished.stderr⟩
  | .error .missing => .error (.commandNotFound (Utf8.lossy command.program))
  | .error .refused => .error (.commandNotStarted (command.commandLine script outDir))

/-- An exit code as a remark shows it. -/
def shownExitCode : Option Int → String
  | some code => "Some(" ++ toString code ++ ")"
  | none => "None"

/-- The remarks of a command: before it is started, and after it ended. -/
def remarks (command : ParserCommand) (script outDir : Path)
    (result : Except Failure Invocation) : List Remark :=
  let line := command.commandLine script outDir
  ⟨"invoking parser", [("command", line)]⟩ ::
    match result with
    | .ok invocation =>
      [⟨"parser exited", [("command", line), ("status", shownExitCode invocation.exitCode)]⟩]
    | .error _ => []

/-- The parser that runs a command on a host. -/
def parser (command : ParserCommand) (host : Host) : Parser where
  parse fs script outDir :=
    let ended := host fs (command.argv script outDir)
    (command.answer script outDir ended.1, ended.2)
  remarks := command.remarks

end ParserCommand

end Fixtures
