import Fixtures.Failure
import Fixtures.Path

/-!
# Settings of a run

What a run is told: where the scripts are, where the parse trees go, how the parser is started, and
what a failed invocation means.
-/

namespace Fixtures

/-- What to do when an invocation fails. -/
inductive Policy where
  /-- Report each failure, keep going, and fail at the end. -/
  | warn
  /-- Stop at the first failure. -/
  | abort
  /-- Count failures and succeed. -/
  | ignore
  deriving DecidableEq, Repr

namespace Policy

/-- The word for a policy, on the command line and in messages. -/
def name : Policy → String
  | warn => "warn"
  | abort => "abort"
  | ignore => "ignore"

/-- The policy of a word. -/
def ofName? (word : String) : Option Policy := [warn, abort, ignore].find? fun p => p.name == word

end Policy

/-- The settings of one run. -/
structure Settings where
  /-- The directory with the scripts. -/
  scriptsDir : Path := Path.ofText "test-scripts"
  /-- The directory for the parse trees, if it is not the one with the scripts. -/
  treesDir : Option Path := none
  /-- The parser's executable. -/
  executable : Path := Path.ofText "boinkmain"
  /-- The text of the launcher. -/
  launcher : Option String := none
  /-- The extension of a script, without its dot. -/
  extension : String := "boink"
  /-- Whether captured output is echoed. -/
  verbose : Bool := false
  /-- What a failed invocation means. -/
  onFailure : Policy := .warn
  /-- Whether scripts with a current parse tree are left out. -/
  skipUpToDate : Bool := false
  /-- Whether invocations are only listed. -/
  dryRun : Bool := false
  deriving DecidableEq, Repr

namespace Settings

/-- The directory that the parse trees are written to. -/
def outDir (settings : Settings) : Path := settings.treesDir.getD settings.scriptsDir

/-- The end of a script's file name. -/
def suffix (settings : Settings) : String := "." ++ settings.extension

/-- Refuses settings under which no script could be found or no parser started. -/
def validate (settings : Settings) : Except Failure Unit :=
  if settings.extension.isEmpty then
    .error (.invalidArgument "--extension must not be empty")
  else if settings.extension.toList.any fun c => c == '/' || c == '\\' then
    .error (.invalidArgument
      ("--extension '" ++ settings.extension ++ "' must not contain path separators"))
  else if settings.executable.isEmpty then
    .error (.invalidArgument "--exe must not be empty")
  else
    .ok ()

end Settings

end Fixtures
