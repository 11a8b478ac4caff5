import Fixtures.Batch
import Fixtures.Options.Basic
import Fixtures.Report

/-!
# Generating parse trees

The whole command: it checks the settings, says what it is about to do, then lists the invocations
or runs them, sums the batch up, writes the report and judges the outcome by the policy.
-/

namespace Fixtures.Generate

/-- The parser that the settings describe. -/
def command (settings : Settings) : ParserCommand :=
  .ofTexts settings.executable settings.launcher

/-- What is said before anything is collected. -/
def opening (settings : Settings) : List Notice :=
  [.header "Generating Boink Parse Trees",
    .status .info ("Scripts: '" ++ Path.text settings.scriptsDir ++ "'  ->  parse trees: '" ++
      Path.text settings.outDir ++ "'"),
    .status .info ("Parser: " ++
      (command settings).commandLine (Path.ofText "<script>") settings.outDir ++
      "  (on failure: " ++ settings.onFailure.name ++ ")")]

/-- What is said if there are no scripts. -/
def noScripts (settings : Settings) : Notice :=
  .status .warning ("No '*" ++ settings.suffix ++ "' scripts found in '" ++
    Path.text settings.scriptsDir ++ "'")

/-- The row of a planned invocation: the script, its parse tree and the command. -/
def planRow (settings : Settings) (script : Path) : List String :=
  [Path.text script, Path.text (Artifact.path script settings.outDir),
    (command settings).commandLine script settings.outDir]

/-- What is said of the invocations that a run would consist of. -/
def plan (settings : Settings) (scripts : List Path) : List Notice :=
  if scripts.isEmpty then
    [noScripts settings]
  else
    [.table ⟨["Script", "Parse tree", "Command"], scripts.map (planRow settings)⟩,
      .status .done ("[DRY] " ++ toString scripts.length ++ " invocations planned")]

/-- The line for a record. Failures have their table instead. -/
def recordNotices (record : Record) : List Notice :=
  match record.outcome with
  | .success => [.generated (Path.text record.script) (Path.text record.artifact)]
  | .skipped => [.status .skip (Path.text record.script ++ " (up to date)")]
  | .failed _ => []

/-- The table of failures, if there are any. -/
def failureTable (tally : Tally) : List Notice :=
  if tally.hasFailures then
    [.table ⟨["Script", "Reason"], tally.failures.map fun failure => [failure.1, failure.2]⟩]
  else
    []

/-- The line with the counts. -/
def countsNotice (tally : Tally) : Notice :=
  .status .done ("Processed " ++ toString tally.total ++ " scripts: " ++ toString tally.success ++
    " parsed, " ++ toString tally.skipped ++ " skipped, " ++ toString tally.failed ++ " failed")

/-- What is said of a batch. -/
def summary (settings : Settings) (tally : Tally) : List Notice :=
  if tally.total = 0 then
    [noScripts settings]
  else
    tally.records.flatMap recordNotices ++ [.separator] ++ failureTable tally ++
      [countsNotice tally]

/-- What is said of a report that was written. -/
def savedNotice (path : Path) : Notice :=
  .status .success ("Report saved to '" ++ Path.text path ++ "'")

/-- Writes a report to standard output, which takes as much of it as there is room for. -/
def printReport (world : Batch.World) (path : Path) (records : List Record) :
    Batch.Progress Unit :=
  let data := Utf8.encode (Report.render records)
  let value := Report.delivery path data.length (world.writer.taken data.length)
  { value := value
    world := ⟨world.fs, (world.writer.write data).2⟩
    attempts := []
    notices := if value.isOk then [savedNotice path] else [] }

/-- Writes the report to its path. The path may lead to an outlet of the process. -/
def writeReport (world : Batch.World) (path : Path) (records : List Record) :
    Batch.Progress Unit :=
  match world.fs.sink path with
  | .ok (.outlet .output) => printReport world path records
  | .ok (.outlet .error) =>
    ⟨.ok (), world, [], [.verbatim (Report.render records), savedNotice path]⟩
  | _ =>
    match Report.save world.fs path records with
    | .error failure => ⟨.error failure, world, [], []⟩
    | .ok fs => ⟨.ok (), ⟨fs, world.writer⟩, [], [savedNotice path]⟩

/-- Writes the report, if one is wanted. -/
def saveReport (world : Batch.World) (report : Option Path) (tally : Tally) :
    Batch.Progress Unit :=
  match report with
  | none => ⟨.ok (), world, [], []⟩
  | some path => writeReport world path tally.records

/-- What a batch comes to in the end. -/
def judgement (settings : Settings) (tally : Tally) : Except Failure Unit :=
  if tally.hasFailures && settings.onFailure == .warn then
    .error (.batchFailed tally.failed tally.total)
  else
    .ok ()

/-- Lists the invocations. -/
def dryRun (settings : Settings) (world : Batch.World) : Batch.Progress Unit :=
  match Collect.scripts world.fs settings.scriptsDir (Collect.suffix settings.extension) with
  | .error failure => ⟨.error failure, world, [], opening settings⟩
  | .ok scripts =>
    { value := .ok ()
      world := world
      attempts := []
      notices := opening settings ++
        .event (Collect.event settings.scriptsDir scripts.length) :: plan settings scripts }

/-- Runs the invocations. -/
def realRun (host : Host) (settings : Settings) (report : Option Path) (world : Batch.World) :
    Batch.Progress Unit :=
  let batch := Batch.collectAndRun settings ((command settings).parser host) world
  let said := opening settings ++ batch.notices
  match batch.value with
  | .error failure => ⟨.error failure, batch.world, batch.attempts, said⟩
  | .ok tally =>
    let saved := saveReport batch.world report tally
    { value := saved.value.bind fun _ => judgement settings tally
      world := saved.world
      attempts := batch.attempts
      notices := said ++ summary settings tally ++ saved.notices }

/-- The command for a request. Invalid settings stop it before anything is said. -/
def run (host : Host) (request : Options.Request) (world : Batch.World) : Batch.Progress Unit :=
  match request.settings.validate with
  | .error failure => ⟨.error failure, world, [], []⟩
  | .ok () =>
    if request.settings.dryRun then dryRun request.settings world
    else realRun host request.settings request.report world

/-- The exit code of a finished command. -/
def exitCode (progress : Batch.Progress Unit) : Nat :=
  match progress.value with
  | .ok _ => 0
  | .error _ => 1

/-- All that a finished command writes to standard error: its notices, and the failure that ended
it. -/
def diagnostics (progress : Batch.Progress Unit) : List Notice :=
  match progress.value with
  | .ok _ => progress.notices
  | .error failure => progress.notices ++ [.status .error failure.message]

end Fixtures.Generate
