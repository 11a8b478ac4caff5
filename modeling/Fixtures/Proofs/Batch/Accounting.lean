import Mathlib
import Fixtures.Proofs.Batch.Run
import Fixtures.Proofs.Tally

/-!
# Every script is accounted for

Under a policy that goes on after a failure, and with a writer that refuses nothing, a batch comes
through and leaves one record for each script. Which record that is depends only on the file system
that the scripts before it left.
-/

namespace Fixtures.Batch

/-- What a script comes to in the file system it finds: its record, the calls that are made for it
and the file system it leaves. -/
inductive Accounted (settings : Settings) (parser : Parser) (fs : FileSystem) (script : Path) :
    Record → List Attempt → FileSystem → Prop where
  /-- Its parse tree is current and such scripts are left out: nothing is called or changed. -/
  | skipped (hskip : settings.skipUpToDate = true)
      (hcurrent : fs.isUpToDate script (Artifact.path script settings.outDir) = true) :
      Accounted settings parser fs script
        ⟨script, Artifact.path script settings.outDir, none, .skipped⟩ [] fs
  /-- Its parser exited with zero. -/
  | succeeded {invocation : Invocation} {after : FileSystem}
      (hdue : ¬(settings.skipUpToDate = true ∧
        fs.isUpToDate script (Artifact.path script settings.outDir) = true))
      (hparse : parser.parse fs script settings.outDir = (.ok invocation, after))
      (hcode : invocation.exitCode = some 0) :
      Accounted settings parser fs script
        ⟨script, Artifact.path script settings.outDir, some 0, .success⟩
        [⟨script, settings.outDir, .ok invocation⟩] after
  /-- Its parser ended in another way. -/
  | failed {invocation : Invocation} {after : FileSystem}
      (hdue : ¬(settings.skipUpToDate = true ∧
        fs.isUpToDate script (Artifact.path script settings.outDir) = true))
      (hparse : parser.parse fs script settings.outDir = (.ok invocation, after))
      (hcode : invocation.exitCode ≠ some 0) :
      Accounted settings parser fs script
        ⟨script, Artifact.path script settings.outDir, invocation.exitCode,
          .failed (Failure.commandFailed invocation.command invocation.statusText
            (Text.trimEnd invocation.stderrText)).message⟩
        [⟨script, settings.outDir, .ok invocation⟩] after
  /-- Its parser answered with a failure of its own. -/
  | notStarted {failure : Failure} {after : FileSystem}
      (hdue : ¬(settings.skipUpToDate = true ∧
        fs.isUpToDate script (Artifact.path script settings.outDir) = true))
      (hparse : parser.parse fs script settings.outDir = (.error failure, after)) :
      Accounted settings parser fs script
        ⟨script, Artifact.path script settings.outDir, none, .failed failure.message⟩
        [⟨script, settings.outDir, .error failure⟩] after

/-- The file system that a script finds fixes its record, its calls and the file system after it. -/
theorem Accounted.unique {settings : Settings} {parser : Parser} {fs : FileSystem} {script : Path}
    {record record' : Record} {calls calls' : List Attempt} {after after' : FileSystem}
    (h : Accounted settings parser fs script record calls after)
    (h' : Accounted settings parser fs script record' calls' after') :
    record = record' ∧ calls = calls' ∧ after = after' := by
  cases h with
  | skipped hskip hcurrent =>
    cases h' with
    | skipped => exact ⟨rfl, rfl, rfl⟩
    | succeeded hdue => exact absurd ⟨hskip, hcurrent⟩ hdue
    | failed hdue => exact absurd ⟨hskip, hcurrent⟩ hdue
    | notStarted hdue => exact absurd ⟨hskip, hcurrent⟩ hdue
  | succeeded hdue hparse hcode =>
    cases h' with
    | skipped hskip hcurrent => exact absurd ⟨hskip, hcurrent⟩ hdue
    | succeeded _ hparse' =>
      cases hparse.symm.trans hparse'
      exact ⟨rfl, rfl, rfl⟩
    | failed _ hparse' hcode' =>
      cases hparse.symm.trans hparse'
      exact absurd hcode hcode'
    | notStarted _ hparse' => cases hparse.symm.trans hparse'
  | failed hdue hparse hcode =>
    cases h' with
    | skipped hskip hcurrent => exact absurd ⟨hskip, hcurrent⟩ hdue
    | succeeded _ hparse' hcode' =>
      cases hparse.symm.trans hparse'
      exact absurd hcode' hcode
    | failed _ hparse' =>
      cases hparse.symm.trans hparse'
      exact ⟨rfl, rfl, rfl⟩
    | notStarted _ hparse' => cases hparse.symm.trans hparse'
  | notStarted hdue hparse =>
    cases h' with
    | skipped hskip hcurrent => exact absurd ⟨hskip, hcurrent⟩ hdue
    | succeeded _ hparse' => cases hparse.symm.trans hparse'
    | failed _ hparse' => cases hparse.symm.trans hparse'
    | notStarted _ hparse' =>
      cases hparse.symm.trans hparse'
      exact ⟨rfl, rfl, rfl⟩

/-- A script is left out exactly if its parse tree is current and that is asked for. -/
theorem skips_eq_true_iff (settings : Settings) (fs : FileSystem) (script : Path) :
    skips settings fs script = true ↔ settings.skipUpToDate = true ∧
      fs.isUpToDate script (Artifact.path script settings.outDir) = true := by
  rw [skips, Bool.and_eq_true]

/-- One script of a batch that goes on: it leaves a record, and it is accounted for. -/
theorem process_accounted {settings : Settings} {world : World}
    (hpolicy : settings.onFailure ≠ .abort) (hwriter : world.writer.Reliable) (parser : Parser)
    (script : Path) :
    ∃ record, (process settings parser world script).value = .ok record ∧
      Accounted settings parser world.fs script record
        (process settings parser world script).attempts
        (process settings parser world script).world.fs := by
  have hdue_of : skips settings world.fs script = false → ¬(settings.skipUpToDate = true ∧
      world.fs.isUpToDate script (Artifact.path script settings.outDir) = true) := by
    intro hdue hskip
    rw [← skips_eq_true_iff, hdue] at hskip
    cases hskip
  cases course settings parser world script with
  | current hskip =>
    rw [process_current settings hskip]
    obtain ⟨hasked, hcurrent⟩ := (skips_eq_true_iff ..).mp hskip
    exact ⟨_, rfl, .skipped hasked hcurrent⟩
  | notStarted hdue hparse =>
    rw [process_notStarted settings hdue hparse, verdict_of_ne_abort hpolicy]
    exact ⟨_, rfl, .notStarted (hdue_of hdue) hparse⟩
  | @refused invocation _ _ _ hecho =>
    rw [(echo_of_reliable hwriter _ invocation).1] at hecho
    cases hecho
  | @finished invocation _ hdue hparse hecho =>
    rw [process_finished settings hdue hparse hecho, judge]
    by_cases hcode : invocation.exitCode = some 0
    · have hsucceeded : invocation.succeeded = true := by simp [Invocation.succeeded, hcode]
      simp only [hsucceeded, ite_true]
      rw [hcode]
      exact ⟨_, rfl, .succeeded (hdue_of hdue) hparse hcode⟩
    · have hsucceeded : invocation.succeeded = false := by simp [Invocation.succeeded, hcode]
      simp only [hsucceeded, Bool.false_eq_true, ite_false, verdict_of_ne_abort hpolicy]
      exact ⟨_, rfl, .failed (hdue_of hdue) hparse hcode⟩

/-- A batch that goes on after failures comes through. -/
theorem runRecords_ok {settings : Settings} {world : World}
    (hpolicy : settings.onFailure ≠ .abort) (hwriter : world.writer.Reliable) (parser : Parser)
    (scripts : List Path) :
    ∃ records, (runRecords settings parser world scripts).value = .ok records := by
  induction scripts generalizing world with
  | nil => exact ⟨[], rfl⟩
  | cons script rest ih =>
    obtain ⟨record, hfirst, -⟩ := process_accounted hpolicy hwriter parser script
    obtain ⟨others, hrest⟩ := ih (process_reliable settings parser hwriter script)
    exact ⟨_, runRecords_cons_value_eq_ok_iff.mpr ⟨record, others, hfirst, hrest, rfl⟩⟩

/-- A batch that goes on after failures comes through with one record for each script, in order. A
record, the calls made for its script and the file system after it are what the script comes to in
the file system that the scripts before it left. -/
theorem run_accounts_for_each_script (settings : Settings) (parser : Parser) (world : World)
    (scripts : List Path)
    (hpolicy : settings.onFailure = .warn ∨ settings.onFailure = .ignore)
    (hwriter : world.writer.Reliable) :
    let upTo := fun i => run settings parser world (scripts.take i)
    ∃ tally, (run settings parser world scripts).value = .ok tally ∧
      tally.records.length = scripts.length ∧
      (upTo 0).world.fs = world.fs ∧ (upTo 0).attempts = [] ∧
      upTo scripts.length = run settings parser world scripts ∧
      ∀ i script, scripts[i]? = some script → ∀ record calls after,
        Accounted settings parser (upTo i).world.fs script record calls after ↔
          tally.records[i]? = some record ∧
          (upTo (i + 1)).attempts = (upTo i).attempts ++ calls ∧
          (upTo (i + 1)).world.fs = after := by
  intro upTo
  have hgoes : settings.onFailure ≠ .abort := by
    rcases hpolicy with h | h <;> rw [h] <;> decide
  obtain ⟨records, hrun⟩ := runRecords_ok hgoes hwriter parser scripts
  have hlength := length_of_runRecords hrun
  refine ⟨Tally.ofRecords records, ?_, ?_, rfl, rfl, ?_, ?_⟩
  · rw [run, hrun, Except.map]
  · rw [Tally.records_ofRecords, hlength]
  · simp only [upTo, List.take_length]
  · intro i script hscript record calls after
    obtain ⟨hi, -⟩ := List.getElem?_eq_some_iff.mp hscript
    have hfound : records[i]? = some records[i] := List.getElem?_eq_getElem (by omega)
    obtain ⟨hstep, hcut⟩ := runRecords_take_succ hrun hscript hfound
    have hbefore := runRecords_reliable settings parser hwriter (scripts.take i)
    obtain ⟨found, hvalue, haccounted⟩ := process_accounted hgoes hbefore parser script
    cases hvalue.symm.trans hstep
    rw [Tally.records_ofRecords, hfound]
    simp only [upTo, run, hcut, List.append_cancel_left_eq, Option.some.injEq]
    constructor
    · exact haccounted.unique
    · rintro ⟨rfl, rfl, rfl⟩
      exact haccounted

/-- A working directory with two scripts of the same age. -/
def twoScripts : FileSystem where
  nodes := [([], ⟨.directory, 0o755, 0⟩), ([Path.ofText "a.boink"], ⟨.file [], 0o644, 5⟩),
    ([Path.ofText "b.boink"], ⟨.file [], 0o644, 5⟩)]
  distinct := by decide
  cwd := []
  now := 9
  privileged := true

/-- A parser that writes the parse tree of `b.boink`, whatever script it is given. -/
def crossingParser : Parser where
  parse fs _ _ :=
    (.ok ⟨"p", some 0, [], []⟩, fs.put [Path.ofText "b.json"] ⟨.file [], 0o644, fs.now⟩)

/-- A script is skipped because the script before it wrote its parse tree. -/
theorem run_accounts_for_each_script_crossing :
    let settings : Settings := { scriptsDir := Path.ofText ".", skipUpToDate := true }
    let scripts := [Path.ofText "a.boink", Path.ofText "b.boink"]
    ∃ tally, (run settings crossingParser ⟨twoScripts, {}⟩ scripts).value = .ok tally ∧
      tally.records.length = 2 ∧ tally.records[1]? = some
        ⟨Path.ofText "b.boink", Artifact.path (Path.ofText "b.boink") settings.outDir, none,
          .skipped⟩ := by
  intro settings scripts
  obtain ⟨tally, hvalue, hlength, -, -, -, hrecords⟩ :=
    run_accounts_for_each_script settings crossingParser ⟨twoScripts, {}⟩ scripts (.inl rfl)
      ((Writer.reliable_iff _).mpr ⟨rfl, rfl⟩)
  have hcurrent :
      (run settings crossingParser ⟨twoScripts, {}⟩ (scripts.take 1)).world.fs.isUpToDate
        (Path.ofText "b.boink") (Artifact.path (Path.ofText "b.boink") settings.outDir) = true := by
    cbv
  have hskipped := (hrecords 1 _ rfl _ _ _).mp (.skipped rfl hcurrent)
  exact ⟨tally, hvalue, hlength, hskipped.1⟩

end Fixtures.Batch
