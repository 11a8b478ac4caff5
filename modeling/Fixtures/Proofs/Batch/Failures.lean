import Fixtures.Proofs.Batch.Run
import Fixtures.Proofs.Computation
import Fixtures.Proofs.Tally

/-!
# Failures of a batch

A batch that comes through has as many failed records as failed calls. A batch that goes on after
failures can only be ended by a refused echo, so it comes through if nothing is echoed or nothing is
refused. A batch that stops at a failure ends with the failure of the first failed call, if its echo
is never refused. In any case a batch is ended by a refused echo or with the failure of a call.
-/

namespace Fixtures.Batch

/-- A script that leaves a record was called in vain exactly if the record says so. -/
theorem process_countP_failed {settings : Settings} {parser : Parser} {world : World}
    {script : Path} {record : Record}
    (h : (process settings parser world script).value = .ok record) :
    (process settings parser world script).attempts.countP Attempt.failed =
      [record].countP Record.failed := by
  cases course settings parser world script with
  | current hskip =>
    rw [process_current settings hskip] at h ⊢
    cases h
    rfl
  | notStarted hdue hparse =>
    rw [process_notStarted settings hdue hparse] at h ⊢
    obtain ⟨outcome, hverdict, rfl⟩ := map_eq_ok_iff.mp h
    rw [eq_failed_of_verdict hverdict]
    rfl
  | refused hdue hparse hecho =>
    rw [process_refused settings hdue hparse hecho] at h
    cases h
  | @finished invocation _ hdue hparse hecho =>
    rw [process_finished settings hdue hparse hecho] at h ⊢
    obtain ⟨outcome, hjudge, rfl⟩ := map_eq_ok_iff.mp h
    rw [eq_of_judge hjudge]
    cases hsucceeded : invocation.succeeded <;>
      simp [Attempt.failed, Attempt.failure?, Record.failed, hsucceeded]

/-- A batch that comes through has as many failed records as failed calls. -/
theorem runRecords_countP_failed {settings : Settings} {parser : Parser} {world : World}
    {scripts : List Path} {records : List Record}
    (h : (runRecords settings parser world scripts).value = .ok records) :
    (runRecords settings parser world scripts).attempts.countP Attempt.failed =
      records.countP Record.failed := by
  induction scripts generalizing world records with
  | nil =>
    simp only [runRecords, Except.ok.injEq] at h
    subst h
    rfl
  | cons script rest ih =>
    obtain ⟨record, others, hfirst, hrest, rfl⟩ := runRecords_cons_value_eq_ok_iff.mp h
    rw [runRecords_cons_of_ok hfirst, Progress.followedBy, List.countP_append, ih hrest,
      process_countP_failed hfirst, ← List.countP_append, List.singleton_append]

/-- A collected batch comes to failed records exactly if a call failed. -/
theorem hasFailures_iff_call_failed {settings : Settings} {parser : Parser} {world : World}
    {tally : Tally} (h : (collectAndRun settings parser world).value = .ok tally) :
    tally.hasFailures = true ↔
      ∃ call ∈ (collectAndRun settings parser world).attempts, call.failed := by
  cases hcollect : collect settings world.fs with
  | error failure =>
    rw [collectAndRun_of_error hcollect] at h
    cases h
  | ok scripts =>
    rw [collectAndRun_of_ok hcollect] at h ⊢
    obtain ⟨records, hrecords, rfl⟩ := map_eq_ok_iff.mp h
    rw [Tally.hasFailures_ofRecords_iff, ← List.countP_pos_iff,
      ← runRecords_countP_failed hrecords, List.countP_pos_iff]

/-- Under a policy that goes on, one script ends the batch only by a refused echo. -/
theorem process_error_of_ne_abort {settings : Settings} (hpolicy : settings.onFailure ≠ .abort)
    {parser : Parser} {world : World} {script : Path} {failure : Failure}
    (h : (process settings parser world script).value = .error failure) :
    failure = .outputRefused := by
  cases course settings parser world script with
  | current hskip =>
    rw [process_current settings hskip] at h
    cases h
  | notStarted hdue hparse =>
    rw [process_notStarted settings hdue hparse, verdict_of_ne_abort hpolicy] at h
    cases h
  | refused hdue hparse hecho =>
    rw [process_refused settings hdue hparse hecho] at h
    cases h
    rfl
  | @finished invocation _ hdue hparse hecho =>
    rw [process_finished settings hdue hparse hecho, judge] at h
    cases hsucceeded : invocation.succeeded with
    | true => simp [hsucceeded, Except.map] at h
    | false => simp [hsucceeded, verdict_of_ne_abort hpolicy, Except.map] at h

/-- Under a policy that goes on, a batch is ended only by a refused echo. -/
theorem runRecords_error_of_ne_abort {settings : Settings} (hpolicy : settings.onFailure ≠ .abort)
    {parser : Parser} {world : World} {scripts : List Path} {failure : Failure}
    (h : (runRecords settings parser world scripts).value = .error failure) :
    failure = .outputRefused := by
  induction scripts generalizing world with
  | nil => simp [runRecords] at h
  | cons script rest ih =>
    cases hfirst : (process settings parser world script).value with
    | error stop =>
      rw [runRecords_cons_of_error hfirst] at h
      cases h
      exact process_error_of_ne_abort hpolicy hfirst
    | ok record =>
      rw [runRecords_cons_of_ok hfirst, Progress.followedBy] at h
      cases hrest : (runRecords settings parser (process settings parser world script).world
          rest).value with
      | ok others => simp [hrest, Except.map] at h
      | error stop =>
        simp only [hrest, Except.map, Except.error.injEq] at h
        subst h
        exact ih hrest

/-- One script ends the batch by a refused echo, or with the failure of its call. -/
theorem process_error {settings : Settings} {parser : Parser} {world : World} {script : Path}
    {failure : Failure} (h : (process settings parser world script).value = .error failure) :
    failure = .outputRefused ∨
      ∃ call ∈ (process settings parser world script).attempts, call.failure? = some failure := by
  by_cases hpolicy : settings.onFailure = .abort
  · cases course settings parser world script with
    | current hskip =>
      rw [process_current settings hskip] at h
      cases h
    | notStarted hdue hparse =>
      rw [process_notStarted settings hdue hparse, hpolicy] at h ⊢
      cases h
      exact .inr ⟨_, List.mem_singleton_self _, rfl⟩
    | refused hdue hparse hecho =>
      rw [process_refused settings hdue hparse hecho] at h
      cases h
      exact .inl rfl
    | @finished invocation _ hdue hparse hecho =>
      rw [process_finished settings hdue hparse hecho, judge, hpolicy] at h ⊢
      cases hsucceeded : invocation.succeeded with
      | true => simp [hsucceeded, Except.map] at h
      | false =>
        simp only [hsucceeded, Bool.false_eq_true, ite_false, verdict, Except.map,
          Except.error.injEq] at h
        exact .inr ⟨_, List.mem_singleton_self _, by simp [Attempt.failure?, hsucceeded, h]⟩
  · exact .inl (process_error_of_ne_abort hpolicy h)

/-- A batch ends early by a refused echo, or with the failure of a call. -/
theorem runRecords_error {settings : Settings} {parser : Parser} {world : World}
    {scripts : List Path} {failure : Failure}
    (h : (runRecords settings parser world scripts).value = .error failure) :
    failure = .outputRefused ∨
      ∃ call ∈ (runRecords settings parser world scripts).attempts,
        call.failure? = some failure := by
  induction scripts generalizing world with
  | nil => simp [runRecords] at h
  | cons script rest ih =>
    cases hfirst : (process settings parser world script).value with
    | error stop =>
      rw [runRecords_cons_of_error hfirst] at h ⊢
      cases h
      exact process_error hfirst
    | ok record =>
      rw [runRecords_cons_of_ok hfirst, Progress.followedBy] at h ⊢
      refine (ih (map_eq_error_iff.mp h)).imp_right ?_
      rintro ⟨call, hcall, hfailure⟩
      exact ⟨call, List.mem_append_right _ hcall, hfailure⟩

/-- Whether an echo can be refused does not matter if there is none. -/
def Audible (settings : Settings) (writer : Writer) : Prop :=
  settings.verbose = true → writer.Reliable

/-- An audible echo is not refused. -/
theorem Audible.echo {settings : Settings} {writer : Writer} (h : Audible settings writer)
    (invocation : Invocation) : (echo settings.verbose writer invocation).1 = true := by
  cases hverbose : settings.verbose with
  | false => rfl
  | true => exact (echo_of_reliable (h hverbose) true invocation).1

/-- Under a policy that goes on, a script with an audible echo leaves a record. -/
theorem process_ok_of_audible {settings : Settings} (hpolicy : settings.onFailure ≠ .abort)
    {world : World} (haudible : Audible settings world.writer) (parser : Parser) (script : Path) :
    ∃ record, (process settings parser world script).value = .ok record := by
  cases course settings parser world script with
  | current hskip => exact ⟨_, by rw [process_current settings hskip]⟩
  | notStarted hdue hparse =>
    rw [process_notStarted settings hdue hparse, verdict_of_ne_abort hpolicy]
    exact ⟨_, rfl⟩
  | @refused invocation _ _ _ hecho => cases (haudible.echo invocation).symm.trans hecho
  | @finished invocation _ hdue hparse hecho =>
    rw [process_finished settings hdue hparse hecho, judge]
    cases invocation.succeeded with
    | true => exact ⟨_, rfl⟩
    | false =>
      simp only [Bool.false_eq_true, ite_false, verdict_of_ne_abort hpolicy]
      exact ⟨_, rfl⟩

/-- Under a policy that goes on, a batch with an audible echo comes through. -/
theorem runRecords_ok_of_audible {settings : Settings} (hpolicy : settings.onFailure ≠ .abort)
    {world : World} (haudible : Audible settings world.writer) (parser : Parser)
    (scripts : List Path) :
    ∃ records, (runRecords settings parser world scripts).value = .ok records := by
  induction scripts generalizing world with
  | nil => exact ⟨[], rfl⟩
  | cons script rest ih =>
    obtain ⟨record, hfirst⟩ := process_ok_of_audible hpolicy haudible parser script
    obtain ⟨others, hrest⟩ := ih fun hverbose =>
      process_reliable settings parser (haudible hverbose) script
    exact ⟨_, runRecords_cons_value_eq_ok_iff.mpr ⟨record, others, hfirst, hrest, rfl⟩⟩

/-- Under the policy that stops, a script ends the batch with the failure of its call, if that
failed. -/
theorem process_error_iff_of_abort {settings : Settings} (hpolicy : settings.onFailure = .abort)
    {parser : Parser} {world : World} (hwriter : world.writer.Reliable) {script : Path}
    {failure : Failure} :
    (process settings parser world script).value = .error failure ↔
      (process settings parser world script).attempts.findSome? Attempt.failure? =
        some failure := by
  cases course settings parser world script with
  | current hskip => simp [process_current settings hskip]
  | notStarted hdue hparse =>
    simp [process_notStarted settings hdue hparse, hpolicy, verdict, Except.map, Attempt.failure?]
  | @refused invocation _ _ _ hecho =>
    rw [(echo_of_reliable hwriter _ invocation).1] at hecho
    cases hecho
  | @finished invocation _ hdue hparse hecho =>
    rw [process_finished settings hdue hparse hecho, judge]
    cases hsucceeded : invocation.succeeded <;>
      simp [hpolicy, hsucceeded, verdict, Except.map, Attempt.failure?]

/-- Under the policy that stops, a batch ends with the failure of its first failed call. -/
theorem runRecords_error_iff_of_abort {settings : Settings} (hpolicy : settings.onFailure = .abort)
    {parser : Parser} {world : World} (hwriter : world.writer.Reliable) {scripts : List Path}
    {failure : Failure} :
    (runRecords settings parser world scripts).value = .error failure ↔
      (runRecords settings parser world scripts).attempts.findSome? Attempt.failure? =
        some failure := by
  induction scripts generalizing world with
  | nil => simp [runRecords]
  | cons script rest ih =>
    cases hfirst : (process settings parser world script).value with
    | error stop =>
      have hstop := (process_error_iff_of_abort hpolicy hwriter).mp hfirst
      rw [runRecords_cons_of_error hfirst, hstop, Option.some.injEq, Except.error.injEq]
    | ok record =>
      have hnone : (process settings parser world script).attempts.findSome? Attempt.failure? =
          none := by
        rw [Option.eq_none_iff_forall_ne_some]
        intro stop hstop
        rw [(process_error_iff_of_abort hpolicy hwriter).mpr hstop] at hfirst
        cases hfirst
      have hrest := ih (process_reliable settings parser hwriter script)
      rw [runRecords_cons_of_ok hfirst, Progress.followedBy, List.findSome?_append, hnone,
        Option.none_or, ← hrest]
      cases (runRecords settings parser (process settings parser world script).world rest).value <;>
        simp [Except.map]

end Fixtures.Batch
