import Mathlib
import Fixtures.Proofs.Batch.Accounting
import Fixtures.Proofs.Batch.Calls
import Fixtures.Proofs.Batch.Failures
import Fixtures.Proofs.Generate.Delivery
import Fixtures.Proofs.Options.Policy

/-!
# How a command ends

A command ends with the fault of its first stage that has one, and well if none has. A dry run has
only the first two stages, and the policy decides whether failed invocations are a fault of the
third stage, of the last one, or of none.

A report is a fault if its path leads to no place that can be opened for writing, or to a device
that refuses its bytes. A command that ends with the judgement of its batch has delivered its report
before.
-/

namespace Fixtures

namespace Generate

open Batch

/-- The failure that something ended with, if there is one. -/
def fault? {α : Type} : Except Failure α → Option Failure
  | .ok _ => none
  | .error failure => some failure

/-- Why a report of `size` bytes cannot be written to a path, if it cannot: the path cannot be
opened, or it leads to a device that refuses bytes. -/
def refusal? (fs : FileSystem) (path : Path) (size : Nat) : Option Failure :=
  match fs.sink path with
  | .error reason => some (.reportRefused reason.message)
  | .ok .refuse =>
    if size = 0 then none
    -- The device is noticed before the last flush only if the report fills the buffer before it.
    else if Report.bufferSize < size then some (.reportRefused IoError.noSpace.message)
    else some (.fileNotWritten (Path.text path))
  | .ok _ => none

/-- The fault of a stage, if it has one. Failed invocations are one under the policy that stops, and
of the judgement under the policy that warns. -/
def faultAt (host : Host) (request : Options.Request) (world : World) (stage : Stage) :
    Option Failure :=
  let settings := request.settings
  let batch := batchOf host settings world
  let scripts := (collect settings world.fs).toOption.getD []
  let records := (batch.value.toOption.map Tally.records).getD []
  match stage with
  | .settings => fault? settings.validate
  | .collection => fault? (collect settings world.fs)
  | .invocation =>
    if settings.dryRun = false ∧ settings.onFailure = .abort then
      batch.attempts.findSome? Attempt.failure?
    else none
  | .report =>
    if settings.dryRun = false then
      request.report.bind fun path =>
        refusal? batch.world.fs path (Utf8.encode (Report.render records)).length
    else none
  | .judgement =>
    if settings.dryRun = false ∧ settings.onFailure = .warn ∧
        ∃ call ∈ batch.attempts, call.failed = true then
      some (.batchFailed (batch.attempts.countP Attempt.failed) scripts.length)
    else none

/-- The end that a fault leads to. -/
def ending : Option Failure → Except Failure Unit
  | none => .ok ()
  | some failure => .error failure

/-- An end in failure is led to by a fault. -/
theorem ending_eq_error_iff {fault : Option Failure} {failure : Failure} :
    ending fault = .error failure ↔ fault = some failure := by
  cases fault <;> simp [ending]

theorem fault?_ending (fault : Option Failure) : fault? (ending fault) = fault := by
  cases fault <;> rfl

/-- Where no byte is taken, a report is written only if it has none. -/
theorem delivery_zero (path : Path) (size : Nat) :
    Report.delivery path size 0 = ending (if size = 0 then none
      else if Report.bufferSize < size then some (.reportRefused IoError.noSpace.message)
      else some (.fileNotWritten (Path.text path))) := by
  have hfull : 0 < (size - 1) / Report.bufferSize * Report.bufferSize ↔
      Report.bufferSize < size := by
    rw [Report.bufferSize]
    omega
  simp only [Report.delivery, hfull, Nat.le_zero]
  split
  · rfl
  · split <;> rfl

/-- A report is not written exactly for what refuses it, if standard output refuses nothing. -/
theorem writeReport_value {world : World} (hwriter : world.writer.Reliable) (path : Path)
    (records : List Record) :
    (writeReport world path records).value =
      ending (refusal? world.fs path (Utf8.encode (Report.render records)).length) := by
  cases hsink : world.fs.sink path with
  | error reason => simp only [writeReport, refusal?, Report.save, hsink, ending]
  | ok sink =>
    cases sink with
    | file location => simp only [writeReport, refusal?, Report.save, hsink, ending]
    | swallow => simp only [writeReport, refusal?, Report.save, hsink, ending]
    | refuse =>
      simp only [writeReport, refusal?, Report.save, hsink, ← delivery_zero]
      cases Report.delivery path (Utf8.encode (Report.render records)).length 0 <;> rfl
    | outlet which =>
      cases which with
      | output => simp only [writeReport_of_output hwriter hsink, refusal?, hsink, ending]
      | error => simp only [writeReport, refusal?, hsink, ending]

/-- The settings are at fault if they are refused. -/
theorem faultAt_settings (host : Host) (request : Options.Request) (world : World) :
    faultAt host request world .settings = fault? request.settings.validate := rfl

/-- The collection is at fault if it fails. -/
theorem faultAt_collection (host : Host) (request : Options.Request) (world : World) :
    faultAt host request world .collection = fault? (collect request.settings world.fs) := rfl

/-- What has a fault ended with it. -/
theorem eq_error_of_fault? {α : Type} {x : Except Failure α} {failure : Failure}
    (h : fault? x = some failure) : x = .error failure := by
  cases x with
  | ok _ => cases h
  | error other => rw [Option.some.inj h]

/-- What refuses a report is of the kind of its stage. -/
theorem owns_of_refusal? {fs : FileSystem} {path : Path} {size : Nat} {failure : Failure}
    (h : refusal? fs path size = some failure) : Stage.report.owns failure = true := by
  unfold refusal? at h
  split at h
  · cases h
    rfl
  · split at h
    · cases h
    · split at h
      · cases h
        rfl
      · cases h
        rfl
  · cases h

/-- Every fault is of the kind of its stage. -/
theorem owns_of_faultAt {host : Host} {request : Options.Request} {world : World} {stage : Stage}
    {failure : Failure} (h : faultAt host request world stage = some failure) :
    stage.owns failure = true := by
  cases stage with
  | settings => exact owns_of_validate (eq_error_of_fault? h)
  | collection => exact owns_of_collect (eq_error_of_fault? h)
  | invocation =>
    simp only [faultAt, Option.ite_none_right_eq_some] at h
    obtain ⟨call, hcall, hfailure⟩ := List.exists_of_findSome?_eq_some h.2
    cases hcollect : collect request.settings world.fs with
    | error reason =>
      rw [batchOf, collectAndRun_of_error hcollect] at hcall
      cases hcall
    | ok scripts =>
      rw [batchOf, collectAndRun_of_ok hcollect] at hcall
      obtain ⟨-, fs, hresult⟩ := exists_parse_of_mem_attempts hcall
      exact owns_of_answer hresult hfailure
  | report =>
    simp only [faultAt, Option.ite_none_right_eq_some, Option.bind_eq_some_iff] at h
    obtain ⟨-, path, -, hrefusal⟩ := h
    exact owns_of_refusal? hrefusal
  | judgement =>
    simp only [faultAt, Option.ite_none_right_eq_some, Option.some.injEq] at h
    rw [← h.2]
    rfl

section RealRun

variable {host : Host} {request : Options.Request} {world : World} {scripts : List Path}
  {tally : Tally}

/-- A batch that comes through has no invocation at fault. -/
theorem faultAt_invocation_of_ok (hwriter : world.writer.Reliable)
    (hscripts : collect request.settings world.fs = .ok scripts)
    (h : (batchOf host request.settings world).value = .ok tally) :
    faultAt host request world .invocation = none := by
  simp only [faultAt, ite_eq_right_iff]
  rintro ⟨-, habort⟩
  rw [batchOf, collectAndRun_of_ok hscripts] at h ⊢
  rw [Option.eq_none_iff_forall_ne_some]
  intro failure hfailure
  rw [(runRecords_error_iff_of_abort habort hwriter).mpr hfailure] at h
  cases h

/-- A batch that ends early has its first failed invocation at fault. -/
theorem faultAt_invocation_of_error (hwriter : world.writer.Reliable)
    (hreal : request.settings.dryRun = false)
    (hscripts : collect request.settings world.fs = .ok scripts) {failure : Failure}
    (h : (batchOf host request.settings world).value = .error failure) :
    faultAt host request world .invocation = some failure := by
  rw [batchOf, collectAndRun_of_ok hscripts] at h
  cases hvalue : (runRecords request.settings ((command request.settings).parser host) world
      scripts).value with
  | ok records => simp [hvalue, Except.map] at h
  | error stop =>
    simp only [hvalue, Except.map, Except.error.injEq] at h
    subst h
    have habort : request.settings.onFailure = .abort := by
      by_contra hgoes
      obtain ⟨records, hrecords⟩ :=
        runRecords_ok hgoes hwriter ((command request.settings).parser host) scripts
      cases hrecords.symm.trans hvalue
    simp only [faultAt, hreal, habort, and_self, ite_true, batchOf, collectAndRun_of_ok hscripts]
    exact (runRecords_error_iff_of_abort habort hwriter).mp hvalue

/-- The report is at fault with what it was not saved for. -/
theorem faultAt_report (hwriter : world.writer.Reliable) (hreal : request.settings.dryRun = false)
    (h : (batchOf host request.settings world).value = .ok tally) :
    faultAt host request world .report = fault?
      (saveReport (batchOf host request.settings world).world request.report tally).value := by
  simp only [faultAt, hreal, ite_true, h, Except.toOption, Option.map_some, Option.getD_some]
  cases request.report with
  | none => rfl
  | some path =>
    rw [Option.bind_some, saveReport,
      writeReport_value (batchOf_reliable host request.settings hwriter), fault?_ending]

/-- What a batch that came through is judged to be. -/
theorem judgement_eq_ending (hreal : request.settings.dryRun = false)
    (hscripts : collect request.settings world.fs = .ok scripts)
    (h : (batchOf host request.settings world).value = .ok tally) :
    judgement request.settings tally = ending (faultAt host request world .judgement) := by
  have hfault : faultAt host request world .judgement =
      if request.settings.onFailure = .warn ∧
          ∃ call ∈ (batchOf host request.settings world).attempts, call.failed = true then
        some (.batchFailed
          ((batchOf host request.settings world).attempts.countP Attempt.failed) scripts.length)
      else none := by
    simp only [faultAt, hreal, true_and, hscripts, Except.toOption, Option.getD_some]
  have hfailed := hasFailures_iff_call_failed h
  rw [batchOf] at hfault h
  rw [collectAndRun_of_ok hscripts] at hfault hfailed h
  obtain ⟨records, hrecords, rfl⟩ := map_eq_ok_iff.mp h
  rw [hfault, judgement, Tally.failed_ofRecords, Tally.total_ofRecords,
    length_of_runRecords hrecords, ← runRecords_countP_failed hrecords]
  by_cases hwarn : request.settings.onFailure = .warn
  · by_cases hsome : (Tally.ofRecords records).hasFailures = true
    · simp [hwarn, hsome, hfailed.mp hsome, ending]
    · simp only [hwarn, hsome, mt hfailed.mpr hsome]
      rfl
  · simp [hwarn, ending]

end RealRun

/-- A command ends with its first fault. -/
theorem run_value_eq_ending (host : Host) (request : Options.Request) {world : World}
    (hwriter : world.writer.Reliable) :
    (run host request world).value =
      ending (Stage.all.findSome? (faultAt host request world)) := by
  simp only [Stage.all, List.findSome?_cons, List.findSome?_nil, faultAt_settings,
    faultAt_collection]
  have hended := run_ended host request world
  generalize run host request world = done at hended
  cases hended with
  | invalid hvalid => simp only [hvalid, fault?, ending]
  | uncollected hvalid hcollect => simp only [hvalid, hcollect, fault?, ending]
  | listed hvalid hcollect hdry =>
    simp [hvalid, hcollect, fault?, ending, faultAt, hdry]
  | stopped hvalid hcollect hreal hbatch =>
    simp only [hvalid, hcollect, fault?, ending,
      faultAt_invocation_of_error hwriter hreal hcollect hbatch]
  | unsaved hvalid hcollect hreal hbatch hsave =>
    simp only [hvalid, hcollect, fault?, ending,
      faultAt_invocation_of_ok hwriter hcollect hbatch, faultAt_report hwriter hreal hbatch, hsave]
  | judged hvalid hcollect hreal hbatch hsave =>
    simp only [hvalid, hcollect, fault?, faultAt_invocation_of_ok hwriter hcollect hbatch,
      faultAt_report hwriter hreal hbatch, hsave, judgement_eq_ending hreal hcollect hbatch]
    cases faultAt host request world .judgement <;> rfl

/-- A command that is refused or has no scripts calls nothing and leaves the world as it is. -/
theorem run_of_early_fault {host : Host} {request : Options.Request} {world : World}
    (h : (faultAt host request world .settings).isSome ∨
      (faultAt host request world .collection).isSome) :
    (run host request world).attempts = [] ∧ (run host request world).world = world := by
  rw [faultAt_settings, faultAt_collection] at h
  have hended := run_ended host request world
  generalize run host request world = done at hended
  cases hended with
  | invalid _ => exact ⟨rfl, rfl⟩
  | uncollected _ _ => exact ⟨rfl, rfl⟩
  | listed _ _ _ => exact ⟨rfl, rfl⟩
  | stopped hvalid hcollect _ _ => simp [hvalid, hcollect, fault?] at h
  | unsaved hvalid hcollect _ _ _ => simp [hvalid, hcollect, fault?] at h
  | judged hvalid hcollect _ _ _ => simp [hvalid, hcollect, fault?] at h

/-- A batch that is judged to have failed has its report written, if one is wanted. -/
theorem delivered_of_batchFailed {host : Host} {request : Options.Request} {world : World}
    (hwriter : world.writer.Reliable) {failed total : Nat}
    (h : (run host request world).value = .error (.batchFailed failed total)) {path : Path}
    (hreport : request.report = some path) :
    ∃ tally sink, (batchOf host request.settings world).value = .ok tally ∧
      (batchOf host request.settings world).world.fs.sink path = .ok sink ∧
      Delivered (batchOf host request.settings world).world (Report.render tally.records)
        (run host request world) sink := by
  have hended := run_ended host request world
  generalize run host request world = done at hended h
  cases hended with
  | invalid hvalid =>
    cases h
    cases owns_of_validate hvalid
  | uncollected _ hcollect =>
    cases h
    cases owns_of_collect hcollect
  | listed _ _ _ => cases h
  | stopped _ hcollect hreal hbatch =>
    cases h
    cases owns_of_faultAt (faultAt_invocation_of_error hwriter hreal hcollect hbatch)
  | unsaved _ _ _ _ hsave =>
    cases h
    cases owns_of_saveReport hsave
  | judged _ _ _ hbatch hsave =>
    rw [hreport, saveReport] at hsave ⊢
    obtain ⟨sink, hsink, hdelivered⟩ := delivered_of_writeReport hsave
    exact ⟨_, sink, hbatch, hsink, hdelivered.of_said rfl fun _ => List.mem_append_right _⟩

/-- A command that ignores failed invocations has no fault after the collection but its report. -/
theorem faultAt_of_ignore {host : Host} {request : Options.Request} {world : World}
    (h : request.settings.onFailure = .ignore) :
    faultAt host request world .invocation = none ∧
      faultAt host request world .judgement = none := by
  simp [faultAt, h]

/-- A command ends with the fault of its first stage that has one, and with exit code zero if none
has. If that is the judgement, the report has come to its place. -/
theorem run_ends_with_first_fault (host : Host) (request : Options.Request) (world : World)
    (hwriter : world.writer.Reliable) :
    let fault := Stage.all.findSome? (faultAt host request world)
    let batch := batchOf host request.settings world
    let done := run host request world
    done.value = ending fault ∧
      exitCode done = (if fault.isSome then 1 else 0) ∧
      (∀ stage failure, faultAt host request world stage = some failure →
        stage.owns failure = true) ∧
      ((faultAt host request world .settings).isSome ∨
          (faultAt host request world .collection).isSome →
        done.attempts = [] ∧ done.world = world) ∧
      (request.settings.onFailure = .ignore → ∀ failure, done.value = .error failure →
        ∃ stage ∈ [Stage.settings, .collection, .report],
          faultAt host request world stage = some failure) ∧
      (∀ failed total path, done.value = .error (.batchFailed failed total) →
        request.report = some path →
          ∃ tally sink, batch.value = .ok tally ∧ batch.world.fs.sink path = .ok sink ∧
            Delivered batch.world (Report.render tally.records) done sink) := by
  intro fault batch done
  have hvalue : done.value = ending fault := run_value_eq_ending host request hwriter
  refine ⟨hvalue, ?_, fun _ _ => owns_of_faultAt, run_of_early_fault, ?_,
    fun _ _ _ hfailed => delivered_of_batchFailed hwriter hfailed⟩
  · rw [exitCode, hvalue]
    cases fault <;> rfl
  · intro hignore failure hfailure
    obtain ⟨hinvocation, hjudgement⟩ := faultAt_of_ignore hignore
    have hfault : fault = some failure := ending_eq_error_iff.mp (hvalue.symm.trans hfailure)
    obtain ⟨stage, -, hstage⟩ := List.exists_of_findSome?_eq_some hfault
    cases stage with
    | settings => exact ⟨.settings, by simp, hstage⟩
    | collection => exact ⟨.collection, by simp, hstage⟩
    | invocation => cases hinvocation.symm.trans hstage
    | report => exact ⟨.report, by simp, hstage⟩
    | judgement => cases hjudgement.symm.trans hstage

/-- Both invocations fail. A report without a directory to go to is the first fault and hides that;
a report in the working directory is written. -/
theorem run_ends_with_first_fault_hidden :
    let settings : Settings := { scriptsDir := Path.ofText "." }
    let world : World := ⟨twoScripts, {}⟩
    let lost := run bareHost ⟨settings, some (Path.ofText "missing/r.csv")⟩ world
    let written := run bareHost ⟨settings, some (Path.ofText "r.csv")⟩ world
    lost.value = .error (.reportRefused "No such file or directory (os error 2)") ∧
      exitCode lost = 1 ∧ written.value = .error (.batchFailed 2 2) ∧
      ∃ tally, (batchOf bareHost settings world).value = .ok tally ∧
        (written.world.fs.node? [Path.ofText "r.csv"]).map Node.content =
          some (.file (Utf8.encode (Report.render tally.records))) := by
  intro settings world lost written
  have hwriter : world.writer.Reliable := (Writer.reliable_iff _).mpr ⟨rfl, rfl⟩
  have hvalid : settings.validate = .ok () := eq_ok_of_toOption (by decide +kernel)
  have hcollect : collect settings world.fs =
      .ok [Path.ofText "./a.boink", Path.ofText "./b.boink"] := by cbv
  have hbatch : ∃ tally, (batchOf bareHost settings world).value = .ok tally ∧
      (batchOf bareHost settings world).world.fs = twoScripts := by
    rw [batchOf, collectAndRun_of_ok hcollect]
    exact ⟨_, rfl, rfl⟩
  obtain ⟨tally, htally, hfs⟩ := hbatch
  have hmissing : twoScripts.sink (Path.ofText "missing/r.csv") = .error .notFound := by cbv
  have hfile : twoScripts.sink (Path.ofText "r.csv") = .ok (.file [Path.ofText "r.csv"]) := by cbv
  have hfirst : ∀ path, Stage.all.findSome? (faultAt bareHost ⟨settings, some path⟩ world) =
      (refusal? twoScripts path (Utf8.encode (Report.render tally.records)).length).or
        (some (.batchFailed 2 2)) := by
    intro path
    have hreport : faultAt bareHost ⟨settings, some path⟩ world .report =
        refusal? twoScripts path (Utf8.encode (Report.render tally.records)).length := by
      simp only [faultAt, htally, hfs]
      rfl
    have hjudgement : faultAt bareHost ⟨settings, some path⟩ world .judgement =
        some (.batchFailed 2 2) := by
      simp only [faultAt, batchOf, collectAndRun_of_ok hcollect, hcollect]
      rfl
    have hinvocation : faultAt bareHost ⟨settings, some path⟩ world .invocation = none :=
      faultAt_invocation_of_ok hwriter hcollect htally
    simp only [Stage.all, List.findSome?_cons, faultAt_settings, hvalid, faultAt_collection,
      hcollect, fault?, hinvocation, hreport, hjudgement]
    cases refusal? twoScripts path (Utf8.encode (Report.render tally.records)).length <;> rfl
  obtain ⟨hlost, hcode, -⟩ := run_ends_with_first_fault bareHost
    ⟨settings, some (Path.ofText "missing/r.csv")⟩ world hwriter
  obtain ⟨hwritten, -, -, -, -, hdelivered⟩ := run_ends_with_first_fault bareHost
    ⟨settings, some (Path.ofText "r.csv")⟩ world hwriter
  simp only [hfirst, refusal?, hmissing] at hlost hcode
  simp only [hfirst, refusal?, hfile] at hwritten
  obtain ⟨_, sink, hsame, hsink, hcontent⟩ := hdelivered 2 2 _ hwritten rfl
  cases htally.symm.trans hsame
  rw [hfs, hfile] at hsink
  cases hsink
  exact ⟨hlost, hcode, hwritten, tally, htally, hcontent⟩

end Generate

end Fixtures
