import Fixtures.Generate
import Fixtures.Proofs.Batch.Run
import Fixtures.Proofs.Collect

/-!
# The stages of a command

A command checks its settings, collects its scripts, makes its invocations, saves its report and
judges its batch. Each stage ends with failures of its own kind, and a command ends in one of six
ways: refused, without scripts, as a list of the invocations, in the middle of the batch, without
its report, or judged.
-/

namespace Fixtures

namespace Generate

open Batch

/-- The stages of a command, in order. -/
inductive Stage where
  /-- The settings are checked. -/
  | settings
  /-- The scripts are collected. -/
  | collection
  /-- The invocations are made. -/
  | invocation
  /-- The report is saved. -/
  | report
  /-- The batch is judged. -/
  | judgement
  deriving DecidableEq, Repr

namespace Stage

/-- All stages, in order. -/
def all : List Stage := [settings, collection, invocation, report, judgement]

/-- Whether a failure is of the kind that a stage ends with. -/
def owns : Stage → Failure → Bool
  | settings, .invalidArgument _ => true
  | collection, .directoryNotFound _ => true
  | collection, .directoryUnreadable _ => true
  | invocation, .commandNotFound _ => true
  | invocation, .commandNotStarted _ => true
  | invocation, .commandFailed _ _ _ => true
  | report, .reportRefused _ => true
  | report, .fileNotWritten _ => true
  | judgement, .batchFailed _ _ => true
  | _, _ => false

end Stage

/-- Settings are refused as an argument that makes no sense. -/
theorem owns_of_validate {settings : Settings} {failure : Failure}
    (h : settings.validate = .error failure) : Stage.settings.owns failure = true := by
  rw [Settings.validate] at h
  split at h
  · cases h
    rfl
  · split at h
    · cases h
      rfl
    · split at h
      · cases h
        rfl
      · cases h

/-- Collecting fails for want of a directory or of the right to list it. -/
theorem owns_of_collect {settings : Settings} {fs : FileSystem} {failure : Failure}
    (h : collect settings fs = .error failure) : Stage.collection.owns failure = true := by
  have hcollected := Collect.scripts_collected fs settings.scriptsDir
    (Collect.suffix settings.extension)
  rw [← collect, h] at hcollected
  cases hcollected with
  | missing _ => rfl
  | unreadable _ _ _ => rfl

/-- A call of a command on a host fails as a command that was not found, was not started or did not
exit with zero. -/
theorem owns_of_answer {command : ParserCommand} {script outDir : Path}
    {ended : Except StartError Finished} {call : Attempt} {failure : Failure}
    (hresult : call.result = command.answer script outDir ended)
    (h : call.failure? = some failure) : Stage.invocation.owns failure = true := by
  rw [Attempt.failure?, hresult] at h
  cases ended with
  | error reason =>
    cases reason <;>
      · cases h
        rfl
  | ok finished =>
    simp only [ParserCommand.answer] at h
    split at h
    · cases h
    · cases h
      rfl

/-- The batch of a command. -/
def batchOf (host : Host) (settings : Settings) (world : World) : Progress Tally :=
  collectAndRun settings ((command settings).parser host) world

/-- The batch of a command leaves a reliable writer reliable. -/
theorem batchOf_reliable (host : Host) (settings : Settings) {world : World}
    (hwriter : world.writer.Reliable) : (batchOf host settings world).world.writer.Reliable := by
  rw [batchOf]
  cases hscripts : collect settings world.fs with
  | error failure => rwa [collectAndRun_of_error hscripts]
  | ok scripts =>
    rw [collectAndRun_of_ok hscripts]
    exact runRecords_reliable settings _ hwriter scripts

/-- The ways in which a command ends. -/
inductive Ended (host : Host) (request : Options.Request) (world : World) : Progress Unit → Prop
  /-- The settings are refused, and nothing is said. -/
  | invalid {failure : Failure} (hvalid : request.settings.validate = .error failure) :
    Ended host request world ⟨.error failure, world, [], []⟩
  /-- There are no scripts to collect, in a dry run or not. -/
  | uncollected {failure : Failure} (hvalid : request.settings.validate = .ok ())
      (hcollect : collect request.settings world.fs = .error failure) :
    Ended host request world ⟨.error failure, world, [], opening request.settings⟩
  /-- The invocations are listed, and nothing else is done. -/
  | listed {scripts : List Path} (hvalid : request.settings.validate = .ok ())
      (hcollect : collect request.settings world.fs = .ok scripts)
      (hdry : request.settings.dryRun = true) :
    Ended host request world ⟨.ok (), world, [], opening request.settings ++
      .event (Collect.event request.settings.scriptsDir scripts.length) ::
        plan request.settings scripts⟩
  /-- The batch ends early. -/
  | stopped {scripts : List Path} {failure : Failure} (hvalid : request.settings.validate = .ok ())
      (hcollect : collect request.settings world.fs = .ok scripts)
      (hreal : request.settings.dryRun = false)
      (hbatch : (batchOf host request.settings world).value = .error failure) :
    Ended host request world ⟨.error failure, (batchOf host request.settings world).world,
      (batchOf host request.settings world).attempts,
      opening request.settings ++ (batchOf host request.settings world).notices⟩
  /-- The report cannot be saved. -/
  | unsaved {scripts : List Path} {tally : Tally} {failure : Failure}
      (hvalid : request.settings.validate = .ok ())
      (hcollect : collect request.settings world.fs = .ok scripts)
      (hreal : request.settings.dryRun = false)
      (hbatch : (batchOf host request.settings world).value = .ok tally)
      (hsave : (saveReport (batchOf host request.settings world).world request.report tally).value =
        .error failure) :
    Ended host request world ⟨.error failure,
      (saveReport (batchOf host request.settings world).world request.report tally).world,
      (batchOf host request.settings world).attempts,
      opening request.settings ++ (batchOf host request.settings world).notices ++
        summary request.settings tally ++
        (saveReport (batchOf host request.settings world).world request.report tally).notices⟩
  /-- The report is saved, if one is wanted, and the batch is judged. -/
  | judged {scripts : List Path} {tally : Tally}
      (hvalid : request.settings.validate = .ok ())
      (hcollect : collect request.settings world.fs = .ok scripts)
      (hreal : request.settings.dryRun = false)
      (hbatch : (batchOf host request.settings world).value = .ok tally)
      (hsave : (saveReport (batchOf host request.settings world).world request.report tally).value =
        .ok ()) :
    Ended host request world ⟨judgement request.settings tally,
      (saveReport (batchOf host request.settings world).world request.report tally).world,
      (batchOf host request.settings world).attempts,
      opening request.settings ++ (batchOf host request.settings world).notices ++
        summary request.settings tally ++
        (saveReport (batchOf host request.settings world).world request.report tally).notices⟩

/-- Every command ends in one of these ways. -/
theorem run_ended (host : Host) (request : Options.Request) (world : World) :
    Ended host request world (run host request world) := by
  rw [run]
  cases hvalid : request.settings.validate with
  | error failure => exact .invalid hvalid
  | ok valid =>
    cases hdry : request.settings.dryRun with
    | true =>
      rw [if_pos rfl, dryRun, ← collect]
      cases hcollect : collect request.settings world.fs with
      | error failure => exact .uncollected hvalid hcollect
      | ok scripts => exact .listed hvalid hcollect hdry
    | false =>
      rw [if_neg Bool.false_ne_true, realRun, ← batchOf]
      cases hcollect : collect request.settings world.fs with
      | error failure =>
        rw [batchOf, collectAndRun_of_error hcollect]
        simpa using Ended.uncollected hvalid hcollect
      | ok scripts =>
        cases hbatch : (batchOf host request.settings world).value with
        | error failure => simpa only [hbatch] using Ended.stopped hvalid hcollect hdry hbatch
        | ok tally =>
          cases hsave : (saveReport (batchOf host request.settings world).world request.report
              tally).value with
          | error failure =>
            simp only [hsave]
            exact .unsaved hvalid hcollect hdry hbatch hsave
          | ok _ =>
            simp only [hsave]
            exact .judged hvalid hcollect hdry hbatch hsave

/-- A host on which no program is found. -/
def bareHost : Host := fun fs _ => (.error .missing, fs)

end Generate

end Fixtures
