import Fixtures.Proofs.Batch.Accounting

/-!
# Stopping at the first failure

A batch that stops at the first failure does what a batch that goes on does, script by script, up to
and including the first failed one. Without a failure the two batches are the same; with one, the
shorter batch is the longer one cut after the failed script, and it ends with that script's failure.

The failure is the one that the first failed record words: the parser's own, or the one that its
invocation stands for. By then the batch has made the calls of the scripts up to there and left the
world after them.
-/

namespace Fixtures.Batch

/-- One script under the two policies: the same calls and the same world. A script that does not
fail leaves the same record; a failed one ends the batch with the failure that the record words. -/
theorem process_abort (settings : Settings) (parser : Parser) {world : World}
    (hwriter : world.writer.Reliable) {script : Path} {record : Record}
    (h : (process (settings.withPolicy .warn) parser world script).value = .ok record) :
    (process (settings.withPolicy .abort) parser world script).world =
        (process (settings.withPolicy .warn) parser world script).world ∧
      (process (settings.withPolicy .abort) parser world script).attempts =
        (process (settings.withPolicy .warn) parser world script).attempts ∧
      (record.failed = false →
        (process (settings.withPolicy .abort) parser world script).value = .ok record) ∧
      ∀ reason, record.outcome = .failed reason → ∃ failure call,
        (process (settings.withPolicy .abort) parser world script).value = .error failure ∧
        failure.message = reason ∧
        (process (settings.withPolicy .warn) parser world script).attempts = [call] ∧
        call.script = script ∧ call.failure? = some failure := by
  cases course settings parser world script with
  | current hskip =>
    rw [process_current (settings.withPolicy .warn) hskip] at h ⊢
    rw [process_current (settings.withPolicy .abort) hskip]
    cases h
    exact ⟨rfl, rfl, fun _ => rfl, fun reason hfailed => by cases hfailed⟩
  | @notStarted failure _ hdue hparse =>
    rw [process_notStarted (settings.withPolicy .warn) hdue hparse] at h ⊢
    rw [process_notStarted (settings.withPolicy .abort) hdue hparse]
    cases h
    refine ⟨rfl, rfl, fun hcalm => by simp [Record.failed] at hcalm, ?_⟩
    rintro reason ⟨⟩
    exact ⟨failure, _, rfl, rfl, rfl, rfl, rfl⟩
  | @refused invocation _ _ _ hecho =>
    rw [(echo_of_reliable hwriter _ invocation).1] at hecho
    cases hecho
  | @finished invocation _ hdue hparse hecho =>
    rw [process_finished (settings.withPolicy .warn) hdue hparse hecho] at h ⊢
    rw [process_finished (settings.withPolicy .abort) hdue hparse hecho]
    cases hsucceeded : invocation.succeeded with
    | true =>
      simp only [judge, hsucceeded, ite_true] at h ⊢
      cases h
      exact ⟨rfl, rfl, fun _ => rfl, fun reason hfailed => by cases hfailed⟩
    | false =>
      simp only [judge, hsucceeded, Bool.false_eq_true, ite_false] at h ⊢
      cases h
      refine ⟨rfl, rfl, fun hcalm => by simp [Record.failed] at hcalm, ?_⟩
      rintro reason ⟨⟩
      exact ⟨invocation.failure, _, rfl, rfl, rfl, rfl, by simp [Attempt.failure?, hsucceeded]⟩

/-- Where no script fails, the two policies lead to the same batch. -/
theorem runRecords_abort_of_no_failure {settings : Settings} {parser : Parser} {world : World}
    (hwriter : world.writer.Reliable) {scripts : List Path} {records : List Record}
    (h : (runRecords (settings.withPolicy .warn) parser world scripts).value = .ok records)
    (hcalm : ∀ record ∈ records, record.failed = false) :
    (runRecords (settings.withPolicy .abort) parser world scripts).value = .ok records ∧
      (runRecords (settings.withPolicy .abort) parser world scripts).world =
        (runRecords (settings.withPolicy .warn) parser world scripts).world ∧
      (runRecords (settings.withPolicy .abort) parser world scripts).attempts =
        (runRecords (settings.withPolicy .warn) parser world scripts).attempts := by
  induction scripts generalizing world records with
  | nil => exact ⟨h, rfl, rfl⟩
  | cons script rest ih =>
    obtain ⟨record, others, hfirst, hrest, rfl⟩ := runRecords_cons_value_eq_ok_iff.mp h
    obtain ⟨hworld, hattempts, hsame, -⟩ := process_abort settings parser hwriter hfirst
    have hfirst' := hsame (hcalm record List.mem_cons_self)
    obtain ⟨hvalue', hworld', hattempts'⟩ :=
      ih (process_reliable _ parser hwriter script) hrest
        (fun other hmem => hcalm other (List.mem_cons_of_mem record hmem))
    rw [runRecords_cons_of_ok hfirst, runRecords_cons_of_ok hfirst', hworld]
    simp only [Progress.followedBy, hattempts, hvalue', hworld', hattempts', Except.map,
      List.singleton_append, and_self]

/-- At the first failure, stopping cuts the batch that goes on right after the failed script. -/
theorem runRecords_abort_of_failure {settings : Settings} {parser : Parser} {world : World}
    (hwriter : world.writer.Reliable) {scripts : List Path} {records : List Record}
    (h : (runRecords (settings.withPolicy .warn) parser world scripts).value = .ok records)
    {i : Nat} {script : Path} {record : Record} {reason : String}
    (hscript : scripts[i]? = some script) (hrecord : records[i]? = some record)
    (hfailed : record.outcome = .failed reason)
    (hcalm : ∀ earlier ∈ records.take i, earlier.failed = false) :
    ∃ failure call,
      (runRecords (settings.withPolicy .abort) parser world scripts).value = .error failure ∧
      failure.message = reason ∧
      (runRecords (settings.withPolicy .abort) parser world scripts).world =
        (runRecords (settings.withPolicy .warn) parser world (scripts.take (i + 1))).world ∧
      (runRecords (settings.withPolicy .abort) parser world scripts).attempts =
        (runRecords (settings.withPolicy .warn) parser world (scripts.take (i + 1))).attempts ∧
      (runRecords (settings.withPolicy .warn) parser world (scripts.take (i + 1))).attempts =
        (runRecords (settings.withPolicy .warn) parser world (scripts.take i)).attempts ++ [call] ∧
      call.script = script ∧ call.failure? = some failure := by
  obtain ⟨hvalue, hworld, hattempts⟩ :=
    runRecords_abort_of_no_failure hwriter (runRecords_take h i) hcalm
  obtain ⟨hstep, hcut⟩ := runRecords_take_succ h hscript hrecord
  have hreliable := runRecords_reliable (settings.withPolicy .warn) parser hwriter (scripts.take i)
  obtain ⟨hsameWorld, hsameAttempts, -, hstop⟩ := process_abort settings parser hreliable hstep
  obtain ⟨failure, call, herror, hmessage, hcall, hcallScript, hcause⟩ := hstop reason hfailed
  have hsplit : scripts = scripts.take i ++ script :: scripts.drop (i + 1) := by
    obtain ⟨hi, rfl⟩ := List.getElem?_eq_some_iff.mp hscript
    rw [← List.drop_eq_getElem_cons hi, List.take_append_drop]
  have hrun := runRecords_append_of_ok hvalue (script :: scripts.drop (i + 1))
  rw [← hsplit, hworld, runRecords_cons_of_error herror] at hrun
  refine ⟨failure, call, ?_, hmessage, ?_, ?_, ?_, hcallScript, hcause⟩
  · rw [hrun, Progress.followedBy, Except.map]
  · rw [hrun, hcut, Progress.followedBy, hsameWorld]
  · rw [hrun, hcut, Progress.followedBy, hattempts, hsameAttempts]
  · rw [hcut, hcall]

/-- Stopping at the first failure is going on, cut right after the first failed script. -/
theorem run_abort_cuts_run_warn (settings : Settings) (parser : Parser) (world : World)
    (scripts : List Path) (hwriter : world.writer.Reliable) :
    let warned := run (settings.withPolicy .warn) parser world
    let aborted := run (settings.withPolicy .abort) parser world scripts
    ∃ tally, (warned scripts).value = .ok tally ∧
      ((∀ record ∈ tally.records, record.failed = false) →
        aborted.value = .ok tally ∧ aborted.attempts = (warned scripts).attempts ∧
          aborted.world = (warned scripts).world) ∧
      ∀ i record reason, tally.records[i]? = some record → record.outcome = .failed reason →
        (∀ earlier ∈ tally.records.take i, earlier.failed = false) →
        (warned (scripts.take (i + 1))).value = .ok (.ofRecords (tally.records.take (i + 1))) ∧
        (warned (scripts.take (i + 1))).attempts <+: (warned scripts).attempts ∧
        aborted.attempts = (warned (scripts.take (i + 1))).attempts ∧
        aborted.world = (warned (scripts.take (i + 1))).world ∧
        ∃ failure call, aborted.value = .error failure ∧ failure.message = reason ∧
          aborted.attempts = (warned (scripts.take i)).attempts ++ [call] ∧
          scripts[i]? = some call.script ∧ call.failure? = some failure := by
  intro warned aborted
  have hgoes : (settings.withPolicy .warn).onFailure ≠ .abort := by simp
  obtain ⟨records, hrun⟩ := runRecords_ok hgoes hwriter parser scripts
  refine ⟨.ofRecords records, by simp only [warned, run, hrun, Except.map], ?_, ?_⟩
  · intro hcalm
    rw [Tally.records_ofRecords] at hcalm
    obtain ⟨hvalue, hworld, hattempts⟩ := runRecords_abort_of_no_failure hwriter hrun hcalm
    exact ⟨by simp only [aborted, run, hvalue, Except.map], hattempts, hworld⟩
  · intro i record reason hrecord hfailed hcalm
    rw [Tally.records_ofRecords] at hrecord hcalm ⊢
    obtain ⟨hi, -⟩ := List.getElem?_eq_some_iff.mp hrecord
    have hlength := length_of_runRecords hrun
    have hscript : scripts[i]? = some scripts[i] := List.getElem?_eq_getElem (by omega)
    obtain ⟨failure, call, hvalue, hmessage, hworld, hattempts, hlast, hcall, hcause⟩ :=
      runRecords_abort_of_failure hwriter hrun hscript hrecord hfailed hcalm
    have htake := runRecords_take hrun (i + 1)
    have hwhole := runRecords_append_of_ok htake (scripts.drop (i + 1))
    rw [List.take_append_drop] at hwhole
    refine ⟨by simp only [warned, run, htake, Except.map], ?_, hattempts, hworld, failure, call,
      by simp only [aborted, run, hvalue, Except.map], hmessage, hattempts.trans hlast,
      by rw [hscript, hcall], hcause⟩
    simp only [warned, run, hwhole, Progress.followedBy]
    exact List.prefix_append _ _

/-- A parser that prints the script and rejects the one named `b`. -/
def rejectingParser : Parser where
  parse fs script _ :=
    if script = [0x62] then (.ok ⟨"p", some 1, script, Utf8.encode "no \n"⟩, fs)
    else (.ok ⟨"p", some 0, script, []⟩, fs)

/-- Of three scripts whose second is rejected, two are called and both are echoed. -/
theorem run_abort_cuts_run_warn_at_second :
    let settings : Settings := { verbose := true }
    let world : World := ⟨⟨[], List.nodup_nil, [], 0, true⟩, {}⟩
    let aborted := run (settings.withPolicy .abort) rejectingParser world [[0x61], [0x62], [0x63]]
    ∃ failure, aborted.value = .error failure ∧
      failure.message = "External command failed (exit code 1): p\nno" ∧
      aborted.attempts.map Attempt.script = [[0x61], [0x62]] ∧
      aborted.world.writer.stored = [0x61, 0x62] := by
  intro settings world aborted
  obtain ⟨tally, hvalue, -, hcut⟩ := run_abort_cuts_run_warn settings rejectingParser world
    [[0x61], [0x62], [0x63]] ((Writer.reliable_iff _).mpr ⟨rfl, rfl⟩)
  cases hvalue
  obtain ⟨-, -, hattempts, hworld, failure, call, hstop, hmessage, -⟩ :=
    hcut 1 _ _ rfl rfl (by decide)
  refine ⟨failure, hstop, ?_, ?_, ?_⟩
  · rw [hmessage]
    decide +kernel
  · exact congrArg (List.map Attempt.script) hattempts
  · exact congrArg (fun left => left.writer.stored) hworld

end Fixtures.Batch
