import Fixtures.Path
import Fixtures.Settings
import Fixtures.Text.Visible

/-!
# Options

The options of the command line: flags, options with a value, and requests for help and version.
What was given is kept apart from the defaults, so that an option can be refused a second time and
an environment variable can stand in for one that was not given.
-/

namespace Fixtures

namespace Options

/-- Options that are on or off. -/
inductive Flag where
  | verbose
  | skipUpToDate
  | dryRun
  deriving DecidableEq, Repr

/-- Options with a value. -/
inductive Setting where
  | dir
  | outDir
  | exe
  | launcher
  | extension
  | onFailure
  | report
  deriving DecidableEq, Repr

/-- Everything that can stand on the command line. -/
inductive Switch where
  | flag (flag : Flag)
  | setting (setting : Setting)
  | help
  | version
  deriving DecidableEq, Repr

/-- How a setting is named in messages. -/
def Setting.label : Setting → String
  | dir => "--dir <DIR>"
  | outDir => "--out-dir <OUT_DIR>"
  | exe => "--exe <EXE>"
  | launcher => "--launcher <LAUNCHER>"
  | extension => "--extension <EXTENSION>"
  | onFailure => "--on-failure <ON_FAILURE>"
  | report => "--report <REPORT>"

/-- How a flag is named in messages. -/
def Flag.label : Flag → String
  | verbose => "--verbose"
  | skipUpToDate => "--skip-up-to-date"
  | dryRun => "--dry-run"

/-- How a switch is named in messages. -/
def Switch.label : Switch → String
  | flag f => f.label
  | setting s => s.label
  | help => "--help"
  | version => "--version"

/-- The switch of a long name, given without its dashes. -/
def Switch.ofLong? (name : String) : Option Switch :=
  match name with
  | "verbose" => some (flag .verbose)
  | "skip-up-to-date" => some (flag .skipUpToDate)
  | "dry-run" => some (flag .dryRun)
  | "dir" => some (setting .dir)
  | "out-dir" => some (setting .outDir)
  | "exe" => some (setting .exe)
  | "launcher" => some (setting .launcher)
  | "extension" => some (setting .extension)
  | "on-failure" => some (setting .onFailure)
  | "report" => some (setting .report)
  | "help" => some help
  | "version" => some version
  | _ => none

/-- The switch of a short name. All short names are ASCII letters. -/
def Switch.ofShort? (letter : UInt8) : Option Switch :=
  if letter = 0x76 then some (flag .verbose)
  else if letter = 0x64 then some (setting .dir)
  else if letter = 0x6F then some (setting .outDir)
  else if letter = 0x65 then some (setting .exe)
  else if letter = 0x68 then some help
  else if letter = 0x56 then some version
  else none

/-- Why a command line is refused. Options and values are kept in their shown form. -/
inductive UsageError where
  /-- An option has no value. -/
  | missingValue (option : String)
  /-- An option has a value it does not know. -/
  | invalidValue (value option : String)
  /-- An option is given twice. -/
  | repeated (option : String)
  /-- A flag has a value. -/
  | unexpectedValue (value option : String)
  /-- There is no such option, or something is given that belongs to none. -/
  | unexpectedArgument (argument : String)
  /-- A text is not well formed. -/
  | invalidUtf8
  deriving DecidableEq, Repr

/-- The whole sentence for a refusal, with what was given. -/
def UsageError.sentence : UsageError → String
  | missingValue option => "a value is required for '" ++ option ++ "' but none was supplied"
  | invalidValue value option => "invalid value '" ++ value ++ "' for '" ++ option ++ "'"
  | repeated option => "the argument '" ++ option ++ "' cannot be used multiple times"
  | unexpectedValue value option =>
    "unexpected value '" ++ value ++ "' for '" ++ option ++ "' found; no more were expected"
  | unexpectedArgument argument => "unexpected argument '" ++ argument ++ "' found"
  | invalidUtf8 => "invalid UTF-8 was detected in one or more arguments"

/-- The line that is shown for a refusal. -/
def UsageError.message (error : UsageError) : String :=
  Text.firstLine (Text.visible ("error: " ++ error.sentence))

/-- Why there are no settings: the command line is refused, or asks for something else. -/
inductive Stop where
  /-- The command line is refused. -/
  | usage (error : UsageError)
  /-- Help is asked for, the long or the short one. -/
  | help (long : Bool)
  /-- The version is asked for. -/
  | version
  deriving DecidableEq, Repr

/-- What was given, option by option. -/
structure Given where
  verbose : Bool := false
  skipUpToDate : Bool := false
  dryRun : Bool := false
  dir : Option Path := none
  outDir : Option Path := none
  exe : Option Path := none
  launcher : Option String := none
  extension : Option String := none
  onFailure : Option Policy := none
  report : Option Path := none
  deriving DecidableEq, Repr

namespace Given

/-- Whether a flag was given. -/
def hasFlag (given : Given) : Flag → Bool
  | .verbose => given.verbose
  | .skipUpToDate => given.skipUpToDate
  | .dryRun => given.dryRun

/-- Whether a setting was given. -/
def has (given : Given) : Setting → Bool
  | .dir => given.dir.isSome
  | .outDir => given.outDir.isSome
  | .exe => given.exe.isSome
  | .launcher => given.launcher.isSome
  | .extension => given.extension.isSome
  | .onFailure => given.onFailure.isSome
  | .report => given.report.isSome

/-- Takes a flag, which must be the first of its kind. -/
def acceptFlag (given : Given) (flag : Flag) : Except UsageError Given :=
  if given.hasFlag flag then
    .error (.repeated flag.label)
  else
    .ok <|
      match flag with
      | .verbose => { given with verbose := true }
      | .skipUpToDate => { given with skipUpToDate := true }
      | .dryRun => { given with dryRun := true }

/-- A path that is not empty. -/
def nonempty (setting : Setting) (raw : Bytes) : Except UsageError Path :=
  if raw = [] then .error (.missingValue setting.label) else .ok raw

/-- A text that is well formed. -/
def wellFormed (raw : Bytes) : Except UsageError String :=
  match Utf8.text? raw with
  | some text => .ok text
  | none => .error .invalidUtf8

/-- One of the policies. -/
def policy (raw : Bytes) : Except UsageError Policy :=
  match (Utf8.text? raw).bind Policy.ofName? with
  | some policy => .ok policy
  | none =>
    if raw = [] then .error (.missingValue Setting.onFailure.label)
    else .error (.invalidValue (Utf8.lossy raw) Setting.onFailure.label)

/-- Takes the value of a setting, without asking whether it was given before. -/
def assign (given : Given) (setting : Setting) (raw : Bytes) : Except UsageError Given :=
  match setting with
  | .dir => (nonempty .dir raw).map fun v => { given with dir := some v }
  | .outDir => (nonempty .outDir raw).map fun v => { given with outDir := some v }
  | .exe => (nonempty .exe raw).map fun v => { given with exe := some v }
  | .launcher => (wellFormed raw).map fun v => { given with launcher := some v }
  | .extension => (wellFormed raw).map fun v => { given with extension := some v }
  | .onFailure => (policy raw).map fun v => { given with onFailure := some v }
  | .report => (nonempty .report raw).map fun v => { given with report := some v }

/-- Takes the value of a setting, which must be the first of its kind. -/
def accept (given : Given) (setting : Setting) (raw : Bytes) : Except UsageError Given :=
  if given.has setting then .error (.repeated setting.label) else given.assign setting raw

end Given

/-- The environment variables that stand in for options. -/
structure Environment where
  /-- Stands in for the scripts directory. -/
  dir : Option Bytes := none
  /-- Stands in for the executable. -/
  exe : Option Bytes := none
  /-- Stands in for the launcher. -/
  launcher : Option Bytes := none
  deriving DecidableEq, Repr

/-- What a command line asks for: settings, and where to write a report. -/
structure Request where
  /-- The settings of the run. -/
  settings : Settings
  /-- The path of the report, if one is wanted. -/
  report : Option Path
  deriving DecidableEq, Repr

/-- The request of what was given, with defaults for the rest. The extension loses its leading
dots. -/
def Given.request (given : Given) : Request where
  settings :=
    let standard : Settings := {}
    { scriptsDir := given.dir.getD standard.scriptsDir
      treesDir := given.outDir
      executable := given.exe.getD standard.executable
      launcher := given.launcher
      extension :=
        String.ofList ((given.extension.getD standard.extension).toList.dropWhile (· == '.'))
      verbose := given.verbose
      onFailure := given.onFailure.getD standard.onFailure
      skipUpToDate := given.skipUpToDate
      dryRun := given.dryRun }
  report := given.report

end Options

end Fixtures
