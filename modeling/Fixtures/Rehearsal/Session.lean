import Fixtures.Generate
import Fixtures.Options.Help
import Fixtures.Options.Parse
import Fixtures.Rehearsal.Behaviour
import Fixtures.Rehearsal.Scene

/-!
# Sessions

A session rehearses steps on one scene. Each step is answered from the file system that the steps
before it left.
-/

namespace Fixtures.Rehearsal

/-- The bytes of a written report, if they can be read back. -/
def reportBytes (fs : FileSystem) (path : Path) : Option Bytes :=
  match fs.find? path with
  | some ⟨.file data, _, _⟩ => some data
  | _ => none

/-- What is found of a report: its bytes, nothing if it went to a device, or the failure. -/
def savedReport (fs : FileSystem) (path : Path) (records : List Record) :
    Except Failure (Option Bytes) × FileSystem :=
  match Report.save fs path records with
  | .error failure => (.error failure, fs)
  | .ok fs => (.ok (reportBytes fs path), fs)

/-- The tally and the report of a list of records in an empty working directory. -/
def talliedReport (path : Path) (records : List Record) : Except Failure (Option Bytes) :=
  (savedReport emptyScene path records).1

/-- A run of a batch. -/
structure BatchStep where
  /-- The settings. -/
  settings : Settings
  /-- The scripts, or none to collect them. -/
  scripts : Option (List Path)
  /-- Where captured output goes. -/
  writer : Writer
  /-- The path of the report. -/
  report : Option Path

/-- A run of the command. -/
structure CommandStep where
  /-- The arguments. -/
  arguments : List Bytes
  /-- The variables that stand in for options. -/
  environment : Options.Environment
  /-- Which events are shown. -/
  filter : Log.Filter
  /-- Whether status lines are coloured. -/
  color : Bool

/-- A step of a session, with the behaviours it is played with. -/
inductive Step where
  | change (entries : List Entry)
  | list
  | collect (dir : Path) (extension : Option String)
  | upToDate (script artifact : Path)
  | batch (behaviours : List Behaviour) (step : BatchStep)
  | invoke (behaviours : List Behaviour) (command : ParserCommand) (script outDir : Path)
  | command (behaviours : List Behaviour) (step : CommandStep)

/-- A started program: its name and its arguments. -/
abbrev Call := List Bytes

/-- What a run of the command shows to the outside. -/
structure Shown where
  /-- The failure that ended it. -/
  failure : Option Failure
  /-- The exit code. -/
  exitCode : Nat
  /-- Standard output. -/
  stdout : Bytes
  /-- Standard error. -/
  stderr : String
  /-- The programs that were started. -/
  calls : List Call

/-- The answer to a step. -/
inductive Answer where
  | changed
  | listed (entries : List (Path × Content))
  | collected (scripts : Except Failure (List Path))
  | upToDate (holds : Bool)
  | batched (progress : Batch.Progress Tally) (stderr : String)
      (report : Option (Except Failure (Option Bytes)))
  | invoked (result : Except Failure Invocation) (calls : List Call)
  | stopped (stop : Options.Stop) (text : String)
  | commanded (shown : Shown)

/-- The call of a program: it is named by what follows the last slash. -/
def call (argv : List Bytes) : Call :=
  match argv with
  | [] => []
  | program :: arguments => Path.afterLastSlash program :: arguments

/-- The programs that were started for the attempts of a command. -/
def calls (command : ParserCommand) (attempts : List Batch.Attempt) : List Call :=
  attempts.filterMap fun attempt =>
    match attempt.result with
    | .ok _ => some (call (command.argv attempt.script attempt.outDir))
    | .error _ => none

/-- The text that is printed instead of a run. -/
def stopText (environment : Options.Environment) : Options.Stop → String
  | .usage error => error.message
  | .help long => Options.helpText environment long
  | .version => Options.versionText

/-- Plays a batch. -/
def playBatch (fs : FileSystem) (behaviours : List Behaviour) (step : BatchStep) :
    Answer × FileSystem :=
  let world : Batch.World := ⟨fs, step.writer⟩
  let progress :=
    match step.scripts with
    | none => Batch.collectAndRun step.settings (parser behaviours) world
    | some scripts => Batch.run step.settings (parser behaviours) world scripts
  let stderr := Notice.renderAll Log.Filter.standard false progress.notices
  let fs := progress.world.fs
  match progress.value, step.report with
  | .ok tally, some path =>
    let saved := savedReport fs path tally.records
    (.batched progress stderr (some saved.1), saved.2)
  | _, _ => (.batched progress stderr none, fs)

/-- Plays a run of the command. -/
def playCommand (fs : FileSystem) (behaviours : List Behaviour) (step : CommandStep) :
    Answer × FileSystem :=
  match Options.parse step.environment step.arguments with
  | .error stop => (.stopped stop (stopText step.environment stop), fs)
  | .ok request =>
    let progress := Generate.run (host behaviours) request ⟨fs, {}⟩
    let failure :=
      match progress.value with
      | .ok _ => none
      | .error failure => some failure
    (.commanded
      { failure := failure
        exitCode := Generate.exitCode progress
        stdout := progress.world.writer.stored
        stderr := Notice.renderAll step.filter step.color (Generate.diagnostics progress)
        calls := calls (Generate.command request.settings) progress.attempts },
      progress.world.fs)

/-- Plays one step. -/
def play (fs : FileSystem) : Step → Answer × FileSystem
  | .change entries => (.changed, applyEntries fs entries)
  | .list => (.listed (listing fs), fs)
  | .collect dir extension =>
    (.collected (Collect.scripts fs dir (Collect.suffix (extension.getD "boink"))), fs)
  | .upToDate script artifact => (.upToDate (fs.isUpToDate script artifact), fs)
  | .batch behaviours step => playBatch fs behaviours step
  | .invoke behaviours command script outDir =>
    let parsed := (command.parser (host behaviours)).parse fs script outDir
    (.invoked parsed.1 (calls command [⟨script, outDir, parsed.1⟩]), parsed.2)
  | .command behaviours step => playCommand fs behaviours step

/-- Plays one step with or without privileges. -/
def playAs (privileged : Bool) (fs : FileSystem) (step : Step) : Answer × FileSystem :=
  let played := play { fs with privileged := privileged } step
  (played.1, { played.2 with privileged := fs.privileged })

/-- Plays the steps of a session in order. Each is given with whether it is privileged. -/
def rehearse (fs : FileSystem) : List (Bool × Step) → List Answer
  | [] => []
  | (privileged, step) :: rest =>
    let played := playAs privileged fs step
    played.1 :: rehearse played.2 rest

end Fixtures.Rehearsal
