import Mathlib
import Fixtures.Proofs.Batch.Effects
import Fixtures.Proofs.Batch.Failures
import Fixtures.Proofs.FileSystem.Filed
import Fixtures.Proofs.Generate.DryRun
import Fixtures.Proofs.Generate.Summary

/-!
# What a command writes

A command writes its report and nothing else, and that at its end. A dry run, a command without a
report and a command that ends before its report leave the files as the parser left them. Any other
command makes the file of its report, or replaces all that is in it, or leaves it alone because it
cannot be opened.

What the parser left is what its calls leave one after another, and on a host that leaves the files
alone where it starts no program, what the started calls leave. So a file that no call changes is as
it was after a command that comes to no report. If the path of a report leads to no device, pipe or
link, it leads to a regular file, new or not, that holds the report of the batch and nothing else
afterwards. There is no other change but the time on the directory of a new file.
-/

namespace Fixtures

namespace Generate

open Batch

/-- Whether a failure ends a command before its report: the settings, the collection or the
invocations are at fault, or an echo was refused. -/
def stopsShort (failure : Failure) : Bool :=
  Stage.settings.owns failure || Stage.collection.owns failure ||
    Stage.invocation.owns failure || failure == .outputRefused

/-- What the report is at fault for does not end a command before it. -/
theorem stopsShort_of_report {failure : Failure} (h : Stage.report.owns failure = true) :
    stopsShort failure = false := by
  cases failure <;> first | rfl | cases h

/-- The judgement of a batch does not end a command before its report. -/
theorem stopsShort_of_judgement {settings : Settings} {tally : Tally} {failure : Failure}
    (h : judgement settings tally = .error failure) : stopsShort failure = false := by
  rw [judgement] at h
  split at h
  · cases h
    rfl
  · cases h

/-- A batch that ends early ends its command before the report. -/
theorem stopsShort_of_batch {host : Host} {settings : Settings} {world : World}
    {scripts : List Path} (hcollect : collect settings world.fs = .ok scripts) {failure : Failure}
    (h : (batchOf host settings world).value = .error failure) : stopsShort failure = true := by
  rw [batchOf, collectAndRun_of_ok hcollect] at h
  rcases runRecords_error (map_eq_error_iff.mp h) with rfl | ⟨call, hcall, hfailure⟩
  · rfl
  · obtain ⟨-, fs, hresult⟩ := exists_parse_of_mem_attempts hcall
    simp [stopsShort, owns_of_answer hresult hfailure]

/-- Writing a report changes the files as saving it does, and it fails where that fails. -/
theorem writeReport_fs (world : World) (path : Path) (records : List Record) :
    (∃ failure, Report.save world.fs path records = .error failure ∧
      (writeReport world path records).value = .error failure ∧
      (writeReport world path records).world.fs = world.fs) ∨
    Report.save world.fs path records = .ok (writeReport world path records).world.fs := by
  have hsaved := writeReport_saved world path records
  generalize writeReport world path records = saved at hsaved
  cases hsaved with
  | filed _ hsave => exact .inr hsave
  | @refused failure hsave => exact .inl ⟨failure, hsave, rfl, rfl⟩
  | shown hsink => exact .inr (by simp only [Report.save, hsink])
  | printed hsink _ => exact .inr (by simp only [Report.save, hsink])
  | cut hsink _ => exact .inr (by simp only [Report.save, hsink])

section Run

variable (host : Host) (request : Options.Request) (world : World)

/-- The calls of a command have the answers of its parser. -/
theorem run_answered :
    Answered ((command request.settings).parser host) world.fs
      (run host request world).attempts := by
  have hbatch := collectAndRun_traced request.settings ((command request.settings).parser host)
    world
  have hended := run_ended host request world
  generalize run host request world = done at hended ⊢
  cases hended with
  | invalid _ => exact trivial
  | uncollected _ _ => exact trivial
  | listed _ _ _ => exact trivial
  | stopped _ _ _ _ => exact hbatch.answered
  | unsaved _ _ _ _ _ => exact hbatch.answered
  | judged _ _ _ _ _ => exact hbatch.answered

/-- A command that comes to no report leaves what its calls leave. -/
theorem run_leaves_of_no_report
    (h : request.settings.dryRun = true ∨ request.report = none ∨
      ∃ failure, (run host request world).value = .error failure ∧ stopsShort failure = true) :
    (run host request world).world.fs =
      effects ((command request.settings).parser host) world.fs
        (run host request world).attempts := by
  have hbatch := collectAndRun_traced request.settings ((command request.settings).parser host)
    world
  have hended := run_ended host request world
  generalize run host request world = done at h hended ⊢
  cases hended with
  | invalid _ => rfl
  | uncollected _ _ => rfl
  | listed _ _ _ => rfl
  | stopped _ _ _ _ => exact hbatch.left
  | unsaved _ _ hreal _ hsave =>
    rcases h with hdry | hnone | ⟨failure, hfailure, hshort⟩
    · cases hreal.symm.trans hdry
    · rw [hnone] at hsave
      cases hsave
    · cases hfailure
      cases (stopsShort_of_report (owns_of_saveReport hsave)).symm.trans hshort
  | judged _ _ hreal _ _ =>
    rcases h with hdry | hnone | ⟨failure, hfailure, hshort⟩
    · cases hreal.symm.trans hdry
    · rw [hnone]
      exact hbatch.left
    · cases (stopsShort_of_judgement hfailure).symm.trans hshort

/-- A command that is to write a report and is not ended before it comes through its batch, and the
report is saved over what the calls leave. -/
theorem run_saves_of_report {path : Path} (hreal : request.settings.dryRun = false)
    (hreport : request.report = some path)
    (h : ∀ failure, (run host request world).value = .error failure →
      stopsShort failure = false) :
    let done := run host request world
    let left := effects ((command request.settings).parser host) world.fs done.attempts
    ∃ tally, (batchOf host request.settings world).value = .ok tally ∧
      ((∃ failure, Report.save left path tally.records = .error failure ∧
        done.value = .error failure ∧ done.world.fs = left) ∨
      Report.save left path tally.records = .ok done.world.fs) := by
  have hbatch := collectAndRun_traced request.settings ((command request.settings).parser host)
    world
  have hended := run_ended host request world
  generalize run host request world = done at h hended ⊢
  intro done left
  cases hended with
  | invalid hvalid =>
    have hshort := h _ rfl
    simp [stopsShort, owns_of_validate hvalid] at hshort
  | uncollected _ hcollect =>
    have hshort := h _ rfl
    simp [stopsShort, owns_of_collect hcollect] at hshort
  | listed _ _ hdry => cases hreal.symm.trans hdry
  | stopped _ hcollect _ hvalue =>
    cases (h _ rfl).symm.trans (stopsShort_of_batch hcollect hvalue)
  | @unsaved _ tally failure _ _ _ hvalue hsave =>
    refine ⟨tally, hvalue, ?_⟩
    have hleft : (batchOf host request.settings world).world.fs = left := hbatch.left
    rw [hreport, saveReport] at hsave
    rcases writeReport_fs (batchOf host request.settings world).world path tally.records with
      ⟨_, hrefused, hfailure, hfs⟩ | hsaved
    · rw [hleft] at hrefused hfs
      cases hsave.symm.trans hfailure
      exact .inl ⟨failure, hrefused, rfl, by simpa only [done, hreport, saveReport] using hfs⟩
    · rw [hleft] at hsaved
      exact .inr (by simpa only [done, hreport, saveReport] using hsaved)
  | @judged _ tally _ _ _ hvalue hsave =>
    refine ⟨tally, hvalue, ?_⟩
    have hleft : (batchOf host request.settings world).world.fs = left := hbatch.left
    rw [hreport, saveReport] at hsave
    rcases writeReport_fs (batchOf host request.settings world).world path tally.records with
      ⟨_, -, hfailure, -⟩ | hsaved
    · cases hsave.symm.trans hfailure
    · rw [hleft] at hsaved
      exact .inr (by simpa only [done, hreport, saveReport] using hsaved)

/-- A valid command that collects its scripts and is no dry run is ended before its report exactly
if its batch ends early. -/
theorem run_stopsShort_iff {scripts : List Path} (hvalid : request.settings.validate = .ok ())
    (hreal : request.settings.dryRun = false)
    (hcollect : collect request.settings world.fs = .ok scripts) :
    (∃ failure, (run host request world).value = .error failure ∧ stopsShort failure = true) ↔
      ∃ failure, (batchOf host request.settings world).value = .error failure := by
  have hended := run_ended host request world
  generalize run host request world = done at hended ⊢
  cases hended with
  | invalid hinvalid => cases hvalid.symm.trans hinvalid
  | uncollected _ hnone => cases hcollect.symm.trans hnone
  | listed _ _ hdry => cases hreal.symm.trans hdry
  | @stopped _ failure _ _ _ hbatch =>
    exact ⟨fun _ => ⟨failure, hbatch⟩, fun _ => ⟨failure, rfl, stopsShort_of_batch hcollect hbatch⟩⟩
  | unsaved _ _ _ hbatch hsave =>
    constructor
    · rintro ⟨failure, hfailure, hshort⟩
      cases hfailure
      cases (stopsShort_of_report (owns_of_saveReport hsave)).symm.trans hshort
    · rintro ⟨failure, hfailure⟩
      cases hbatch.symm.trans hfailure
  | judged _ _ _ hbatch _ =>
    constructor
    · rintro ⟨failure, hfailure, hshort⟩
      cases (stopsShort_of_judgement hfailure).symm.trans hshort
    · rintro ⟨failure, hfailure⟩
      cases hbatch.symm.trans hfailure

end Run

/-- A report whose path leads to no device, pipe or link is refused, or it is written to the regular
file that the path leads to. -/
theorem save_of_no_device {fs : FileSystem} {path : Path}
    (h : ∀ location node, fs.locate path = .ok (location, node) →
      node.content.isRegular = true ∨ node.content = .directory) (records : List Record) :
    (∃ reason, fs.sink path = .error reason ∧
      Report.save fs path records = .error (.reportRefused reason.message)) ∨
    ∃ location after, fs.destination path = some (location, false) ∧
      Report.save fs path records = .ok after ∧
      fs.Written location (Utf8.encode (Report.render records)) after := by
  rcases FileSystem.sink_of_no_device h with ⟨reason, hsink⟩ | ⟨location, hsink⟩
  · exact .inl ⟨reason, hsink, by simp only [Report.save, hsink]⟩
  · obtain ⟨hdestination, hregular⟩ := FileSystem.destination_of_sink hsink
    exact .inr ⟨location, _, hdestination, by simp only [Report.save, hsink],
      FileSystem.store_written hregular _⟩

/-- A command writes only its report, over the files `left` by the calls of the parser, and that at
its end. -/
theorem run_writes_only_its_report (host : Host) (request : Options.Request) (world : World) :
    let parser := (command request.settings).parser host
    let done := run host request world
    let left := effects parser world.fs done.attempts
    Answered parser world.fs done.attempts ∧
    ((∀ fs argv reason, (host fs argv).1 = .error reason → (host fs argv).2 = fs) →
      left = effects parser world.fs (done.attempts.filter Attempt.started)) ∧
    ((request.settings.dryRun = true ∨ request.report = none ∨
        ∃ failure, done.value = .error failure ∧ stopsShort failure = true) →
      done.world.fs = left ∧
      ∀ location, (∀ fs argv, (host fs argv).2.node? location = fs.node? location) →
        done.world.fs.node? location = world.fs.node? location) ∧
    ∀ path, request.settings.dryRun = false → request.report = some path →
      (∀ failure, done.value = .error failure → stopsShort failure = false) →
      (∀ location node, left.locate path = .ok (location, node) →
        node.content.isRegular = true ∨ node.content = .directory) →
      ∃ tally, (batchOf host request.settings world).value = .ok tally ∧
        ((∃ reason, left.sink path = .error reason ∧
            done.value = .error (.reportRefused reason.message) ∧ done.world.fs = left) ∨
          ∃ location node, left.destination path = some (location, false) ∧
            left.Written location (Utf8.encode (Report.render tally.records)) done.world.fs ∧
            done.world.fs.locate path = .ok (location, node) ∧
            node.content = .file (Utf8.encode (Report.render tally.records))) := by
  intro parser done left
  have hanswered : Answered parser world.fs done.attempts := run_answered host request world
  refine ⟨hanswered, ?_, ?_, ?_⟩
  · intro hinert
    refine (effects_started (fun fs script outDir hfailed => ?_) hanswered).symm
    cases hstart : (host fs ((command request.settings).argv script outDir)).1 with
    | error reason => exact hinert _ _ reason hstart
    | ok finished =>
      simp [parser, ParserCommand.parser, hstart, ParserCommand.answer, Except.isOk,
        Except.toBool] at hfailed
  · intro h
    have hleft : done.world.fs = left := run_leaves_of_no_report host request world h
    refine ⟨hleft, fun location hkeep => ?_⟩
    rw [hleft]
    exact effects_keep (motive := fun fs => fs.node? location = world.fs.node? location)
      (fun fs script outDir hfs => (hkeep fs _).trans hfs) rfl done.attempts
  · intro path hreal hreport hlasts hpath
    obtain ⟨tally, hbatch, hsaved⟩ := run_saves_of_report host request world hreal hreport hlasts
    refine ⟨tally, hbatch, ?_⟩
    rcases save_of_no_device hpath tally.records with
      ⟨reason, hsink, hrefused⟩ | ⟨location, after, hdestination, hsave, hwritten⟩
    · rcases hsaved with ⟨failure, hfailure, hvalue, hfs⟩ | hok
      · cases hrefused.symm.trans hfailure
        exact .inl ⟨reason, hsink, hvalue, hfs⟩
      · cases hrefused.symm.trans hok
    · rcases hsaved with ⟨failure, hfailure, -, -⟩ | hok
      · cases hsave.symm.trans hfailure
      · cases Except.ok.inj (hsave.symm.trans hok)
        obtain ⟨node, hlocate, hcontent⟩ := hwritten.locate hdestination
        exact .inr ⟨location, node, hdestination, hwritten, hlocate, hcontent⟩

/-- A working directory with a script and an old report. -/
def oldReport : FileSystem where
  nodes := [([], ⟨.directory, 0o755, 0⟩), ([Path.ofText "a.boink"], ⟨.file [], 0o644, 5⟩),
    ([Path.ofText "r.csv"], ⟨.file (Utf8.encode "old"), 0o600, 5⟩)]
  distinct := by decide
  cwd := []
  now := 9
  privileged := true

/-- A host whose parser leaves a file behind and fails. -/
def litteringHost : Host := fun fs _ =>
  (.ok ⟨some 1, [], Utf8.encode "no\n"⟩, fs.put [Path.ofText "core"] ⟨.file [7], 0o644, fs.now⟩)

/-- A request for a report over the old one. -/
def reportRequest : Options.Request :=
  ⟨{ scriptsDir := Path.ofText "." }, some (Path.ofText "r.csv")⟩

/-- A failure that ends the command leaves the old report. One that is only warned of lets the new
report replace it. -/
theorem run_writes_only_its_report_once :
    let world : World := ⟨oldReport, {}⟩
    let stopped := run litteringHost (reportRequest.withPolicy .abort) world
    let warned := run litteringHost reportRequest world
    let reason := "External command failed (exit code 1): boinkmain parse ./a.boink .\nno"
    (∃ failure, stopped.value = .error failure ∧ stopsShort failure = true) ∧
      stopped.world.fs.node? [Path.ofText "r.csv"] = oldReport.node? [Path.ofText "r.csv"] ∧
      ∃ node, warned.world.fs.locate (Path.ofText "r.csv") = .ok ([Path.ofText "r.csv"], node) ∧
        node.content = .file (Utf8.encode (Report.render
          [⟨Path.ofText "./a.boink", Path.ofText "./a.json", some 1, .failed reason⟩])) := by
  intro world stopped warned reason
  let littered := oldReport.put [Path.ofText "core"] ⟨.file [7], 0o644, 9⟩
  have hvalid : reportRequest.settings.validate = .ok () :=
    eq_ok_of_toOption (by decide +kernel)
  have hcollect : collect reportRequest.settings oldReport = .ok [Path.ofText "./a.boink"] := by
    cbv
  have hbatch : (batchOf litteringHost reportRequest.settings world).value = .ok (Tally.ofRecords
      [⟨Path.ofText "./a.boink", Path.ofText "./a.json", some 1, .failed reason⟩]) := by
    rw [batchOf, collectAndRun_of_ok hcollect]
    exact eq_ok_of_toOption (by decide +kernel)
  have hlocate : littered.locate (Path.ofText "r.csv") =
      .ok ([Path.ofText "r.csv"], ⟨.file (Utf8.encode "old"), 0o600, 5⟩) := by cbv
  have hsink : littered.sink (Path.ofText "r.csv") = .ok (.file [Path.ofText "r.csv"]) := by cbv
  have hended : ∃ failure, stopped.value = .error failure ∧ stopsShort failure = true := by
    have hsame : ∀ policy fs, collect (reportRequest.withPolicy policy).settings fs =
        collect reportRequest.settings fs := fun _ _ => rfl
    have hcollected := (hsame .abort oldReport).trans hcollect
    refine (run_stopsShort_iff litteringHost (reportRequest.withPolicy .abort) world hvalid rfl
      hcollected).mpr ?_
    rw [batchOf, collectAndRun_of_ok hcollected]
    exact exists_error_of_toOption (by decide +kernel)
  obtain ⟨-, -, hshort, -⟩ :=
    run_writes_only_its_report litteringHost (reportRequest.withPolicy .abort) world
  refine ⟨hended, (hshort (.inr (.inr hended))).2 _ fun fs argv => ?_, ?_⟩
  · rw [litteringHost, FileSystem.node?_put, if_neg (by decide +kernel)]
  · have hlasts : ∀ failure, warned.value = .error failure → stopsShort failure = false := by
      intro failure hfailure
      by_contra hshort
      obtain ⟨stop, hstop⟩ :=
        (run_stopsShort_iff litteringHost reportRequest world hvalid rfl hcollect).mp
          ⟨failure, hfailure, by simpa using hshort⟩
      rw [hbatch] at hstop
      cases hstop
    have hleft : effects ((command reportRequest.settings).parser litteringHost) world.fs
        warned.attempts = littered := by
      rw [run_attempts hvalid rfl hcollect]
      rfl
    obtain ⟨-, -, -, hwrites⟩ := run_writes_only_its_report litteringHost reportRequest world
    obtain ⟨tally, htally, hreport⟩ := hwrites (Path.ofText "r.csv") rfl rfl hlasts
      (fun location node hfound => by
        rw [hleft, hlocate, Except.ok.injEq, Prod.mk.injEq] at hfound
        rw [← hfound.2]
        exact .inl rfl)
    obtain rfl := Except.ok.inj (hbatch.symm.trans htally)
    rw [hleft, Tally.records_ofRecords] at hreport
    rcases hreport with ⟨reason, hrefused, -, -⟩ | ⟨location, node, hplace, -, hfound, hcontent⟩
    · rw [hsink] at hrefused
      cases hrefused
    · rw [(FileSystem.destination_of_sink hsink).1, Option.some.injEq, Prod.mk.injEq] at hplace
      rw [← hplace.1] at hfound
      exact ⟨node, hfound, hcontent⟩

end Generate

end Fixtures
