import Fixtures.Artifact
import Fixtures.Collect
import Fixtures.Notice
import Fixtures.Parser
import Fixtures.Settings
import Fixtures.Tally

/-!
# Batches

A batch processes scripts one after another. Each script is skipped, or parsed once; its outcome
depends only on the world that the scripts before it left. A failed invocation ends the batch or is
recorded, as the policy says, and an echo that is refused always ends it. On a terminal a batch also
draws a bar that shows its progress; standard error is taken to be none.
-/

namespace Fixtures

/-- Where captured output is echoed to. -/
structure Writer where
  /-- What was stored so far. -/
  stored : Bytes := []
  /-- How many more bytes are taken, if there is a limit. -/
  room : Option Nat := none
  /-- Whether each flush fails. -/
  flushFails : Bool := false
  deriving DecidableEq, Repr

namespace Writer

/-- How many of `n` bytes are taken. -/
def taken (writer : Writer) (n : Nat) : Nat := (writer.room.map fun room => min room n).getD n

/-- Writes all bytes and flushes. What fits is stored even if the rest is refused. -/
def write (writer : Writer) (bytes : Bytes) : Bool × Writer :=
  let n := writer.taken bytes.length
  (n == bytes.length && !writer.flushFails,
    { writer with
      stored := writer.stored ++ bytes.take n
      room := writer.room.map (· - n) })

end Writer

namespace Batch

/-- What a batch reads and changes. -/
structure World where
  /-- The files. -/
  fs : FileSystem
  /-- Where captured output goes. -/
  writer : Writer

/-- One call of the parser, with its answer. -/
structure Attempt where
  /-- The script. -/
  script : Path
  /-- The output directory. -/
  outDir : Path
  /-- What the parser answered. -/
  result : Except Failure Invocation

/-- What a part of a batch comes to: its value or the failure that ends the batch, the world it
leaves, the calls it made and the notices it gave. -/
structure Progress (α : Type) where
  /-- The value, or the failure that ends the batch. -/
  value : Except Failure α
  /-- The world afterwards. -/
  world : World
  /-- The calls of the parser. -/
  attempts : List Attempt
  /-- What was written to standard error. -/
  notices : List Notice

/-- An event of the batch itself. -/
def event (level : Log.Level) (message : String) (fields : List (String × String)) : Notice :=
  .event ⟨level, "boinkgen::batch::runner", message, fields⟩

/-- What a failure means under a policy. -/
def verdict (policy : Policy) (script : Path) (failure : Failure) :
    Except Failure Outcome × List Notice :=
  match policy with
  | .abort => (.error failure, [])
  | .warn =>
    (.ok (.failed failure.message),
      [.status .warning ("Failed to parse " ++ Path.text script ++ ": " ++ failure.message)])
  | .ignore =>
    (.ok (.failed failure.message),
      [event .debug "ignoring failure" [("script", Path.text script), ("error", failure.message)]])

/-- What a finished invocation means. A success without a parse tree is worth a warning. -/
def judge (policy : Policy) (fs : FileSystem) (script artifact : Path) (invocation : Invocation) :
    Except Failure Outcome × List Notice :=
  if invocation.succeeded then
    (.ok .success,
      if fs.pathExists artifact then []
      else
        [event .warn "parser succeeded but wrote no parse tree"
          [("script", Path.text script), ("artifact", Path.text artifact)]])
  else
    verdict policy script invocation.failure

/-- What becomes of captured output: it is echoed if the run is verbose, and only noted if not. -/
def echo (verbose : Bool) (writer : Writer) (invocation : Invocation) :
    Bool × Writer × List Notice :=
  if verbose then
    let written := writer.write invocation.stdout
    (written.1, written.2, [])
  else
    (true, writer, [event .trace "parser output" [("stdout", invocation.stdoutText)]])

/-- Runs the parser on a script and judges its answer. -/
def attempt (settings : Settings) (parser : Parser) (world : World) (script artifact : Path) :
    Progress Record :=
  let outDir := settings.outDir
  let parsed := parser.parse world.fs script outDir
  let remarks := (parser.remarks script outDir parsed.1).map fun remark => .event remark.event
  match parsed.1 with
  | .error failure =>
    let judged := verdict settings.onFailure script failure
    { value := judged.1.map fun outcome => ⟨script, artifact, none, outcome⟩
      world := ⟨parsed.2, world.writer⟩
      attempts := [⟨script, outDir, parsed.1⟩]
      notices := remarks ++ judged.2 }
  | .ok invocation =>
    let echoed := echo settings.verbose world.writer invocation
    let judged :=
      if echoed.1 then judge settings.onFailure parsed.2 script artifact invocation
      else (.error .outputRefused, [])
    { value := judged.1.map fun outcome => ⟨script, artifact, invocation.exitCode, outcome⟩
      world := ⟨parsed.2, echoed.2.1⟩
      attempts := [⟨script, outDir, parsed.1⟩]
      notices := remarks ++ echoed.2.2 ++ judged.2 }

/-- Processes one script: skips it if its parse tree is current and that is asked for, or parses
it. -/
def process (settings : Settings) (parser : Parser) (world : World) (script : Path) :
    Progress Record :=
  let artifact := Artifact.path script settings.outDir
  if settings.skipUpToDate && world.fs.isUpToDate script artifact then
    { value := .ok ⟨script, artifact, none, .skipped⟩
      world := world
      attempts := []
      notices := [event .debug "parse tree up to date" [("script", Path.text script)]] }
  else
    attempt settings parser world script artifact

/-- Processes scripts in order, until one ends the batch. -/
def runRecords (settings : Settings) (parser : Parser) :
    World → List Path → Progress (List Record)
  | world, [] => ⟨.ok [], world, [], []⟩
  | world, script :: rest =>
    let first := process settings parser world script
    match first.value with
    | .error failure => ⟨.error failure, first.world, first.attempts, first.notices⟩
    | .ok record =>
      let others := runRecords settings parser first.world rest
      { value := others.value.map (record :: ·)
        world := others.world
        attempts := first.attempts ++ others.attempts
        notices := first.notices ++ others.notices }

/-- Processes scripts in order and tallies them. -/
def run (settings : Settings) (parser : Parser) (world : World) (scripts : List Path) :
    Progress Tally :=
  let progress := runRecords settings parser world scripts
  { progress with value := progress.value.map Tally.ofRecords }

/-- Collects the scripts of the settings and processes them. -/
def collectAndRun (settings : Settings) (parser : Parser) (world : World) : Progress Tally :=
  match Collect.scripts world.fs settings.scriptsDir (Collect.suffix settings.extension) with
  | .error failure => ⟨.error failure, world, [], []⟩
  | .ok scripts =>
    let progress := run settings parser world scripts
    { progress with
      notices := .event (Collect.event settings.scriptsDir scripts.length) :: progress.notices }

end Batch

end Fixtures
