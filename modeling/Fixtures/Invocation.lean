import Fixtures.Failure
import Fixtures.Text.Blank
import Fixtures.Text.Utf8

/-!
# Invocations

What is known of one parser run after it ended. Only an exit code of zero is a success; any other
code, and an end without a code, is a failure that quotes what the parser wrote to its standard
error.
-/

namespace Fixtures

/-- One finished run of a parser. -/
structure Invocation where
  /-- The command line as it is shown. -/
  command : String
  /-- The exit code, absent if a signal ended the run. -/
  exitCode : Option Int
  /-- The captured standard output. -/
  stdout : Bytes
  /-- The captured standard error. -/
  stderr : Bytes
  deriving DecidableEq, Repr

namespace Invocation

/-- Whether the parser exited with zero. -/
def succeeded (invocation : Invocation) : Bool := invocation.exitCode == some 0

/-- The shown form of the captured standard output. -/
def stdoutText (invocation : Invocation) : String := Utf8.lossy invocation.stdout

/-- The shown form of the captured standard error. -/
def stderrText (invocation : Invocation) : String := Utf8.lossy invocation.stderr

/-- How the run ended, in words. -/
def statusText (invocation : Invocation) : String :=
  match invocation.exitCode with
  | some code => "exit code " ++ toString code
  | none => "terminated by signal"

/-- The failure that an unsuccessful run stands for. The quoted error has no white space at its
end. -/
def failure (invocation : Invocation) : Failure :=
  .commandFailed invocation.command invocation.statusText (Text.trimEnd invocation.stderrText)

end Invocation

end Fixtures
