import Mathlib
import Fixtures.Proofs.Batch.Accounting
import Fixtures.Proofs.Batch.Failures
import Fixtures.Proofs.Batch.Ignore
import Fixtures.Proofs.Generate.Delivery
import Fixtures.Proofs.Options.Policy

/-!
# Warning of failures and ignoring them

Two commands that differ only in that one warns of failures and the other ignores them do the same.
They make the same calls, leave the same world and build the same tally, and any failure other than
the last judgement of the batch stops both. They differ in what they say, by a rule that is stated
here, and in how they end if a script failed.

A command line that is accepted with the policy `warn` is accepted with `ignore` in its place. What
the second command writes to standard error by default is what the first writes, hushed. The exit
codes differ exactly if a call failed and nothing else did; they are then one and zero.
-/

namespace Fixtures

/-- Whether a failure is the last judgement of a batch. -/
def Failure.isBatchFailed : Failure → Bool
  | batchFailed _ _ => true
  | _ => false

namespace Generate

open Batch

/-- The line that names the directories. -/
def scriptsLine (settings : Settings) : Notice :=
  .status .info ("Scripts: '" ++ Path.text settings.scriptsDir ++ "'  ->  parse trees: '" ++
    Path.text settings.outDir ++ "'")

/-- The line that names the policy. -/
def parserLine (settings : Settings) (policy : Policy) : Notice :=
  .status .info ("Parser: " ++
    (command settings).commandLine (Path.ofText "<script>") settings.outDir ++
    "  (on failure: " ++ policy.name ++ ")")

/-- Only the last line of the opening depends on the policy. -/
theorem opening_withPolicy (settings : Settings) (policy : Policy) :
    opening (settings.withPolicy policy) =
      [.header "Generating Boink Parse Trees", scriptsLine settings, parserLine settings policy] :=
  rfl

/-- The two lines are told apart by their first letter. -/
theorem scriptsLine_ne_parserLine (settings : Settings) (policy : Policy) :
    scriptsLine settings ≠ parserLine settings policy := by
  intro heq
  have htexts := congrArg String.toList (Notice.status.inj heq).2
  simp [String.toList_append] at htexts

/-- A notice of a command that warns of failures, with the policy renamed in the line that names
it. -/
def renamed (settings : Settings) (notice : Notice) : Notice :=
  if notice = parserLine settings .warn then parserLine settings .ignore else notice

/-- What a command that warns of failures writes to standard error, apart from the warnings of
failed scripts and the judgement of the batch, and with the policy renamed. -/
def hushed (settings : Settings) (warned : Progress Unit) : List Notice :=
  let kept :=
    match warned.value with
    | .error (.batchFailed _ _) => warned.notices
    | _ => diagnostics warned
  (kept.filter fun notice => !notice.isFailureWarning).map (renamed settings)

/-- A notice that a command gives under both policies: it neither warns of a failed script nor is
for information. -/
def Steady (notice : Notice) : Prop :=
  notice.isFailureWarning = false ∧ ∀ text, notice ≠ .status .info text

/-- An event is steady. -/
theorem event_steady (event : Log.Event) : Steady (.event event) := ⟨rfl, nofun⟩

/-- Only notices for information are renamed. -/
theorem renamed_of_steady (settings : Settings) {notice : Notice} (h : Steady notice) :
    renamed settings notice = notice := if_neg (h.2 _)

/-- A notice is shown under its new name if it was shown before. -/
theorem shown_renamed (settings : Settings) (filter : Log.Filter) (notice : Notice) :
    (renamed settings notice).shown filter = notice.shown filter := by
  rw [renamed]
  split
  · next h =>
    rw [h]
    rfl
  · rfl

/-- Of steady notices nothing is left out but what is not shown. -/
theorem calm_of_steady {notices : List Notice} (h : ∀ notice ∈ notices, Steady notice) :
    Notice.calm notices = notices.filter (Notice.shown Log.Filter.standard) :=
  List.filter_congr fun notice hmem => by rw [(h notice hmem).1, Bool.not_false, Bool.and_true]

/-- Of steady notices none is renamed. -/
theorem map_renamed_of_steady (settings : Settings) {notices : List Notice}
    (h : ∀ notice ∈ notices, Steady notice) : notices.map (renamed settings) = notices := by
  rw [List.map_congr_left fun notice hmem => renamed_of_steady settings (h notice hmem)]
  exact List.map_id notices

/-- The notices of a command under the two policies. -/
def Matches (settings : Settings) (warned ignored : List Notice) : Prop :=
  (Notice.calm warned).map (renamed settings) = ignored.filter (Notice.shown Log.Filter.standard)

namespace Matches

variable {settings : Settings}

/-- Notices that match, one part after another. -/
theorem append {warned ignored warned' ignored' : List Notice}
    (h : Matches settings warned ignored) (h' : Matches settings warned' ignored') :
    Matches settings (warned ++ warned') (ignored ++ ignored') := by
  rw [Matches, Notice.calm_append, List.map_append, List.filter_append, h, h']

/-- Steady notices match themselves. -/
theorem steady {notices : List Notice} (h : ∀ notice ∈ notices, Steady notice) :
    Matches settings notices notices := by
  rw [Matches, calm_of_steady h]
  exact map_renamed_of_steady settings fun notice hmem => h notice (List.mem_filter.mp hmem).1

/-- What is said at first matches. -/
theorem opening (settings : Settings) :
    Matches settings (opening (settings.withPolicy .warn))
      (opening (settings.withPolicy .ignore)) := by
  have htitle : renamed settings (.header "Generating Boink Parse Trees") =
      .header "Generating Boink Parse Trees" := if_neg nofun
  have hscripts : renamed settings (scriptsLine settings) = scriptsLine settings :=
    if_neg (scriptsLine_ne_parserLine settings .warn)
  have hparser : renamed settings (parserLine settings .warn) = parserLine settings .ignore :=
    if_pos rfl
  rw [Matches, opening_withPolicy, opening_withPolicy]
  calc (Notice.calm [.header "Generating Boink Parse Trees", scriptsLine settings,
          parserLine settings .warn]).map (renamed settings)
      = [.header "Generating Boink Parse Trees", scriptsLine settings,
          parserLine settings .warn].map (renamed settings) := rfl
    _ = [.header "Generating Boink Parse Trees", scriptsLine settings,
          parserLine settings .ignore] := by
        rw [List.map_cons, List.map_cons, List.map_singleton, htitle, hscripts, hparser]

/-- The notices of a batch match. -/
theorem batch {warned ignored : Progress Tally} (h : Hushed warned ignored) :
    Matches settings warned.notices ignored.notices := by
  have hsteady : ∀ notice ∈ ignored.notices, Steady notice := by
    intro notice hmem
    obtain ⟨event, rfl⟩ := h.events notice hmem
    exact event_steady event
  rw [Matches, ← h.notices]
  exact steady hsteady

/-- Texts of notices that match. -/
theorem text {warned ignored : List Notice} (h : Matches settings warned ignored) (color : Bool) :
    Notice.renderAll Log.Filter.standard color ignored =
      Notice.renderAll Log.Filter.standard color
        ((warned.filter fun notice => !notice.isFailureWarning).map (renamed settings)) := by
  have hkept : Notice.calm warned = (warned.filter fun notice => !notice.isFailureWarning).filter
      (Notice.shown Log.Filter.standard ∘ renamed settings) := by
    rw [Notice.calm, List.filter_filter]
    exact List.filter_congr fun notice _ => by rw [Function.comp, shown_renamed]
  rw [← Notice.renderAll_filter_shown _ _ ignored, ← h, hkept, ← List.filter_map,
    Notice.renderAll_filter_shown]

end Matches

/-- The notice that there are no scripts is steady. -/
theorem noScripts_steady (settings : Settings) : Steady (noScripts settings) := by
  refine ⟨?_, nofun⟩
  simp [noScripts, Notice.isFailureWarning, String.toList_append, List.isPrefixOf]

/-- The line for a record is steady. -/
theorem recordNotices_steady {record : Record} :
    ∀ notice ∈ recordNotices record, Steady notice := by
  intro notice hmem
  unfold recordNotices at hmem
  split at hmem
  · rw [List.mem_singleton.mp hmem]
    exact ⟨rfl, nofun⟩
  · rw [List.mem_singleton.mp hmem]
    exact ⟨rfl, nofun⟩
  · cases hmem

/-- What is said of a batch is steady. -/
theorem summary_steady (settings : Settings) (tally : Tally) :
    ∀ notice ∈ summary settings tally, Steady notice := by
  intro notice hmem
  rw [summary] at hmem
  split at hmem
  · rw [List.mem_singleton.mp hmem]
    exact noScripts_steady settings
  · simp only [List.mem_append, List.mem_flatMap, List.mem_singleton, failureTable] at hmem
    rcases hmem with ((⟨record, -, hrecord⟩ | rfl) | htable) | rfl
    · exact recordNotices_steady notice hrecord
    · exact ⟨rfl, nofun⟩
    · split at htable
      · rw [List.mem_singleton.mp htable]
        exact ⟨rfl, nofun⟩
      · cases htable
    · exact ⟨rfl, nofun⟩

/-- What is said of planned invocations is steady. -/
theorem plan_steady {settings : Settings} {scripts : List Path} :
    ∀ notice ∈ plan settings scripts, Steady notice := by
  intro notice hmem
  rw [plan] at hmem
  split at hmem
  · rw [List.mem_singleton.mp hmem]
    exact noScripts_steady settings
  · simp only [List.mem_cons, List.not_mem_nil, or_false] at hmem
    rcases hmem with rfl | rfl <;> exact ⟨rfl, nofun⟩

/-- What is said of a report is steady. -/
theorem saveReport_steady (world : World) (report : Option Path) (tally : Tally) :
    ∀ notice ∈ (saveReport world report tally).notices, Steady notice := by
  intro notice hmem
  rcases mem_saveReport hmem with rfl | ⟨path, rfl⟩
  · exact ⟨rfl, nofun⟩
  · exact ⟨rfl, nofun⟩

/-- Only the last stage ends with the judgement of the batch. -/
theorem isBatchFailed_of_owns {stage : Stage} {failure : Failure} (h : stage.owns failure = true)
    (hstage : stage ≠ .judgement) : failure.isBatchFailed = false := by
  cases failure with
  | batchFailed _ _ =>
    cases stage with
    | judgement => exact absurd rfl hstage
    | _ => cases h
  | _ => rfl

/-- How a command ends under the two policies, with the calls that were made. -/
inductive Ending (calls : List Attempt) : Except Failure Unit → Except Failure Unit → Prop
  /-- Both stop with the same failure. -/
  | stopped {failure : Failure} (h : failure.isBatchFailed = false) :
    Ending calls (.error failure) (.error failure)
  /-- A call failed, and only the command that warns of it fails at the end. -/
  | judged {failed total : Nat} (h : ∃ call ∈ calls, call.failed) :
    Ending calls (.error (.batchFailed failed total)) (.ok ())
  /-- No call failed. -/
  | clean (h : ¬∃ call ∈ calls, call.failed) : Ending calls (.ok ()) (.ok ())

/-- A command that ignores failures, beside the same command that warns of them. -/
structure Companion (settings : Settings) (warned ignored : Progress Unit) : Prop where
  /-- Both leave the same world. -/
  world : ignored.world = warned.world
  /-- Both make the same calls. -/
  attempts : ignored.attempts = warned.attempts
  /-- What they say matches. -/
  notices : Matches settings warned.notices ignored.notices
  /-- They end alike, apart from the judgement of the batch. -/
  ending : Ending warned.attempts warned.value ignored.value

/-- A dry run under the two policies. -/
theorem dryRun_companion (settings : Settings) (world : World) :
    Companion settings (dryRun (settings.withPolicy .warn) world)
      (dryRun (settings.withPolicy .ignore) world) := by
  simp only [dryRun, Settings.withPolicy_scriptsDir, Settings.withPolicy_extension]
  cases hcollect : Collect.scripts world.fs settings.scriptsDir
      (Collect.suffix settings.extension) with
  | error failure =>
    have hnone : collect settings world.fs = .error failure := hcollect
    exact ⟨rfl, rfl, .opening settings,
      .stopped (isBatchFailed_of_owns (owns_of_collect hnone) (by decide))⟩
  | ok scripts =>
    refine ⟨rfl, rfl, (Matches.opening settings).append (.steady fun notice hmem => ?_),
      .clean (by simp)⟩
    rcases List.mem_cons.mp hmem with rfl | hmem
    · exact event_steady _
    · exact plan_steady notice hmem

/-- A collected batch that goes on after failures does not end with a judgement. -/
theorem collectAndRun_error {settings : Settings} (hpolicy : settings.onFailure ≠ .abort)
    {parser : Parser} {world : World} {failure : Failure}
    (h : (collectAndRun settings parser world).value = .error failure) :
    failure.isBatchFailed = false := by
  cases hcollect : collect settings world.fs with
  | error failure =>
    rw [collectAndRun_of_error hcollect] at h
    cases h
    exact isBatchFailed_of_owns (owns_of_collect hcollect) (by decide)
  | ok scripts =>
    rw [collectAndRun_of_ok hcollect] at h
    cases hrecords : (runRecords settings parser world scripts).value with
    | ok records => simp [hrecords, Except.map] at h
    | error reason =>
      simp only [hrecords, Except.map, Except.error.injEq] at h
      subst h
      rw [runRecords_error_of_ne_abort hpolicy hrecords]
      rfl

/-- The judgements of a batch under the two policies. -/
theorem judgement_ending (settings : Settings) {tally : Tally} {calls : List Attempt}
    (h : tally.hasFailures = true ↔ ∃ call ∈ calls, call.failed) :
    Ending calls (judgement (settings.withPolicy .warn) tally)
      (judgement (settings.withPolicy .ignore) tally) := by
  cases hfailures : tally.hasFailures with
  | true =>
    simp only [judgement, hfailures]
    exact .judged (h.mp hfailures)
  | false =>
    simp only [judgement, hfailures]
    exact .clean fun hfailed => by simp [h.mpr hfailed] at hfailures

/-- A real run under the two policies. -/
theorem realRun_companion (host : Host) (settings : Settings) (report : Option Path)
    (world : World) :
    Companion settings (realRun host (settings.withPolicy .warn) report world)
      (realRun host (settings.withPolicy .ignore) report world) := by
  have hbatch := collectAndRun_hushed settings ((command settings).parser host) world
  have hsaid := (Matches.opening settings).append (.batch hbatch)
  have hcommand : ∀ policy, command (settings.withPolicy policy) = command settings :=
    fun _ => rfl
  have hsummary : ∀ policy, summary (settings.withPolicy policy) = summary settings := fun _ => rfl
  cases hvalue : (collectAndRun (settings.withPolicy .warn)
      ((command settings).parser host) world).value with
  | error failure =>
    simp only [realRun, hcommand, hvalue, hbatch.value]
    exact ⟨hbatch.world, hbatch.attempts, hsaid, .stopped (collectAndRun_error (by simp) hvalue)⟩
  | ok tally =>
    have hsummed := (hsaid.append (.steady (summary_steady settings tally))).append
      (.steady (saveReport_steady (collectAndRun (settings.withPolicy .warn)
        ((command settings).parser host) world).world report tally))
    simp only [realRun, hcommand, hsummary, hvalue, hbatch.value, hbatch.world]
    cases hsave : (saveReport (collectAndRun (settings.withPolicy .warn)
        ((command settings).parser host) world).world report tally).value with
    | error failure =>
      exact ⟨rfl, hbatch.attempts, hsummed,
        .stopped (isBatchFailed_of_owns (owns_of_saveReport hsave) (by decide))⟩
    | ok _ =>
      exact ⟨rfl, hbatch.attempts, hsummed,
        judgement_ending settings (hasFailures_iff_call_failed hvalue)⟩

/-- A command under the two policies. -/
theorem run_companion (host : Host) (request : Options.Request) (world : World) :
    Companion request.settings (run host (request.withPolicy .warn) world)
      (run host (request.withPolicy .ignore) world) := by
  simp only [run, Options.Request.withPolicy, Settings.withPolicy_validate,
    Settings.withPolicy_dryRun]
  cases hvalid : request.settings.validate with
  | error failure =>
    exact ⟨rfl, rfl, .steady (List.forall_mem_nil _),
      .stopped (isBatchFailed_of_owns (owns_of_validate hvalid) (by decide))⟩
  | ok valid =>
    cases valid
    by_cases hdry : request.settings.dryRun = true
    · simp only [hdry, ite_true]
      exact dryRun_companion request.settings world
    · simp only [hdry]
      exact realRun_companion host request.settings request.report world

namespace Companion

variable {settings : Settings} {warned ignored : Progress Unit}

/-- A failure other than the judgement of the batch stops both or neither. -/
theorem error_iff (h : Companion settings warned ignored) {failure : Failure}
    (hother : failure.isBatchFailed = false) :
    ignored.value = .error failure ↔ warned.value = .error failure := by
  rcases warned with ⟨value, _, _, _⟩
  rcases ignored with ⟨value', _, _, _⟩
  cases h.ending with
  | stopped _ => rfl
  | judged _ =>
    refine ⟨nofun, ?_⟩
    rintro ⟨⟩
    cases hother
  | clean _ => rfl

/-- A command that ignores failures never ends with the judgement of the batch. -/
theorem not_batchFailed (h : Companion settings warned ignored) {failure : Failure}
    (hvalue : ignored.value = .error failure) : failure.isBatchFailed = false := by
  rcases warned with ⟨value, _, _, _⟩
  rcases ignored with ⟨value', _, _, _⟩
  cases h.ending with
  | stopped hother =>
    cases hvalue
    exact hother
  | judged _ => cases hvalue
  | clean _ => cases hvalue

/-- What a command that ignores failures writes by default is what the other one writes, hushed. -/
theorem text (h : Companion settings warned ignored) (color : Bool) :
    Notice.renderAll Log.Filter.standard color (diagnostics ignored) =
      Notice.renderAll Log.Filter.standard color (hushed settings warned) := by
  have hnotices := h.notices
  rcases warned with ⟨value, _, _, said⟩
  rcases ignored with ⟨value', _, _, said'⟩
  cases h.ending with
  | judged _ => exact hnotices.text color
  | clean _ => exact hnotices.text color
  | @stopped failure hother =>
    have herror : Matches settings [.status .error failure.message]
        [.status .error failure.message] :=
      .steady fun notice hmem => by
        rw [List.mem_singleton.mp hmem]
        exact ⟨rfl, nofun⟩
    cases failure with
    | batchFailed _ _ => cases hother
    | _ => exact (hnotices.append herror).text color

/-- The exit codes differ exactly if a call failed and nothing else did. -/
theorem exitCode_ne_iff (h : Companion settings warned ignored) :
    exitCode warned ≠ exitCode ignored ↔
      (∃ call ∈ warned.attempts, call.failed) ∧
        ∀ failure, warned.value = .error failure → failure.isBatchFailed = true := by
  rcases warned with ⟨value, _, _, _⟩
  rcases ignored with ⟨value', _, _, _⟩
  cases h.ending with
  | stopped hother => simp [exitCode, hother]
  | judged hfailed => simpa [exitCode, Failure.isBatchFailed] using hfailed
  | clean hclean => simpa [exitCode] using hclean

/-- Where the exit codes differ, the command that warns of failures fails. -/
theorem exitCodes_of_ne (h : Companion settings warned ignored)
    (hne : exitCode warned ≠ exitCode ignored) : exitCode warned = 1 ∧ exitCode ignored = 0 := by
  rcases warned with ⟨value, _, _, _⟩
  rcases ignored with ⟨value', _, _, _⟩
  cases h.ending with
  | stopped _ => exact absurd rfl hne
  | judged _ => exact ⟨rfl, rfl⟩
  | clean _ => exact absurd rfl hne

end Companion

/-- Warning of failures and ignoring them differ only in what is reported, on every host and in
every world. -/
theorem run_ignore_hushes_run_warn (environment : Options.Environment) (joined : Bool)
    (before after : List Bytes) (request : Options.Request)
    (haccepted : Options.parse environment
      (before ++ (Options.policyArguments joined .warn ++ after)) = .ok request)
    (host : Host) (world : World) :
    ∃ quiet, Options.parse environment
        (before ++ (Options.policyArguments joined .ignore ++ after)) = .ok quiet ∧
      (run host quiet world).attempts = (run host request world).attempts ∧
      (run host quiet world).world = (run host request world).world ∧
      (collectAndRun quiet.settings ((command quiet.settings).parser host) world).value =
        (collectAndRun request.settings ((command request.settings).parser host) world).value ∧
      (∀ failure, failure.isBatchFailed = false →
        ((run host quiet world).value = .error failure ↔
          (run host request world).value = .error failure)) ∧
      (∀ failure, (run host quiet world).value = .error failure →
        failure.isBatchFailed = false) ∧
      (∀ color, Notice.renderAll Log.Filter.standard color (diagnostics (run host quiet world)) =
        Notice.renderAll Log.Filter.standard color
          (hushed request.settings (run host request world))) ∧
      (exitCode (run host request world) ≠ exitCode (run host quiet world) ↔
        (∃ call ∈ (run host request world).attempts, call.failed) ∧
          ∀ failure, (run host request world).value = .error failure →
            failure.isBatchFailed = true) ∧
      (exitCode (run host request world) ≠ exitCode (run host quiet world) →
        exitCode (run host request world) = 1 ∧ exitCode (run host quiet world) = 0) := by
  obtain ⟨hpolicy, hquiet⟩ := Options.parse_withPolicy haccepted .ignore
  have hrequest : request.withPolicy .warn = request :=
    hpolicy ▸ Options.Request.withPolicy_self request
  have hbatch := collectAndRun_hushed request.settings
    ((command request.settings).parser host) world
  have hruns := run_companion host request world
  have hsettings : request.settings.withPolicy .warn = request.settings :=
    congrArg Options.Request.settings hrequest
  rw [hrequest] at hruns
  rw [hsettings] at hbatch
  exact ⟨request.withPolicy .ignore, hquiet, hruns.attempts, hruns.world, hbatch.value,
    fun _ hother => hruns.error_iff hother, fun _ hvalue => hruns.not_batchFailed hvalue,
    hruns.text, hruns.exitCode_ne_iff, hruns.exitCodes_of_ne⟩

/-- A host on which every program fails. -/
def failingHost : Host := fun fs _ => (.ok ⟨some 1, Utf8.encode "out", Utf8.encode "no\n"⟩, fs)

/-- Two scripts fail: the command with `warn` exits with one, the same command with `ignore` with
zero. -/
theorem run_ignore_hushes_run_warn_two_failures :
    let arguments := fun policy =>
      [Utf8.encode "--dir", Utf8.encode "."] ++
        (Options.policyArguments false policy ++ [Utf8.encode "-v"])
    ∃ request quiet, Options.parse {} (arguments .warn) = .ok request ∧
      Options.parse {} (arguments .ignore) = .ok quiet ∧
      exitCode (run failingHost request ⟨twoScripts, {}⟩) = 1 ∧
      exitCode (run failingHost quiet ⟨twoScripts, {}⟩) = 0 := by
  intro arguments
  let request : Options.Request := ⟨{ scriptsDir := Path.ofText ".", verbose := true }, none⟩
  have haccepted : Options.parse {} (arguments .warn) = .ok request :=
    eq_ok_of_toOption (by decide +kernel)
  have hcollect : Collect.scripts twoScripts request.settings.scriptsDir
      (Collect.suffix request.settings.extension) =
      .ok [Path.ofText "./a.boink", Path.ofText "./b.boink"] := by cbv
  have hvalid : request.settings.validate = .ok () := eq_ok_of_toOption (by decide +kernel)
  have hrun : run failingHost request ⟨twoScripts, {}⟩ =
      realRun failingHost request.settings none ⟨twoScripts, {}⟩ := by
    rw [run, hvalid]
    rfl
  have hvalue : (run failingHost request ⟨twoScripts, {}⟩).value = .error (.batchFailed 2 2) := by
    rw [hrun, realRun, collectAndRun, hcollect]
    rfl
  have hattempts : ∃ call ∈ (run failingHost request ⟨twoScripts, {}⟩).attempts, call.failed := by
    rw [hrun, realRun, collectAndRun, hcollect]
    exact ⟨_, .head _, rfl⟩
  obtain ⟨quiet, hquiet, -, -, -, -, -, -, hdiffer, hcodes⟩ :=
    run_ignore_hushes_run_warn {} false _ _ request haccepted failingHost ⟨twoScripts, {}⟩
  refine ⟨request, quiet, haccepted, hquiet, hcodes (hdiffer.mpr ⟨hattempts, ?_⟩)⟩
  intro failure hfailure
  cases hvalue.symm.trans hfailure
  rfl

end Generate

end Fixtures
