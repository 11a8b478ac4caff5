import Fixtures.Proofs.Batch.Run

/-!
# Failures that are only counted

A batch that ignores failures does the same as one that warns of them: the same calls in the same
order, the same records, the same world and the same end. Of its notices those are missing that warn
of a failed script, and what it notes in their place is not shown by default.
-/

namespace Fixtures

namespace Notice

/-- Whether a notice warns of a failed script. -/
def isFailureWarning : Notice → Bool
  | status .warning text => "Failed to parse ".toList.isPrefixOf text.toList
  | _ => false

/-- What is shown by default, apart from the warnings of failed scripts. -/
def calm (notices : List Notice) : List Notice :=
  notices.filter fun notice => notice.shown Log.Filter.standard && !notice.isFailureWarning

@[simp] theorem calm_append (notices others : List Notice) :
    calm (notices ++ others) = calm notices ++ calm others := List.filter_append ..

theorem calm_cons (notice : Notice) (rest : List Notice) :
    calm (notice :: rest) = calm [notice] ++ calm rest := by
  rw [← calm_append, List.singleton_append]

end Notice

namespace Batch

/-- A part of a batch that ignores failures, beside the same part of one that warns of them. -/
structure Hushed {α : Type} (warned ignored : Progress α) : Prop where
  /-- Both have the same value or end with the same failure. -/
  value : ignored.value = warned.value
  /-- Both leave the same world. -/
  world : ignored.world = warned.world
  /-- Both make the same calls. -/
  attempts : ignored.attempts = warned.attempts
  /-- Both show the same by default, apart from the warnings of failed scripts. -/
  notices : Notice.calm ignored.notices = Notice.calm warned.notices
  /-- The one that ignores failures only notes events. -/
  events : ∀ notice ∈ ignored.notices, ∃ event, notice = .event event

/-- A failure under the two policies: the same outcome, and a notice of its own that is left out of
what is compared. -/
theorem verdict_hushed (script : Path) (failure : Failure) :
    (verdict .ignore script failure).1 = (verdict .warn script failure).1 ∧
      Notice.calm (verdict .ignore script failure).2 = [] ∧
      Notice.calm (verdict .warn script failure).2 = [] ∧
      ∀ notice ∈ (verdict .ignore script failure).2, ∃ event, notice = .event event := by
  refine ⟨rfl, ?_, ?_, ?_⟩
  · have hhidden := event_not_shown (by decide : 2 < Log.Level.debug.rank) "ignoring failure"
      [("script", Path.text script), ("error", failure.message)]
    simp [verdict, Notice.calm, hhidden]
  · have hwarning : (Notice.status .warning ("Failed to parse " ++ Path.text script ++ ": " ++
        failure.message)).isFailureWarning = true := by
      simp only [Notice.isFailureWarning, String.toList_append, List.append_assoc,
        List.isPrefixOf_iff_prefix]
      exact List.prefix_append _ _
    simp [verdict, Notice.calm, hwarning]
  · intro notice hmem
    exact ⟨_, List.mem_singleton.mp hmem⟩

/-- A judged invocation under the two policies. -/
theorem judge_hushed (fs : FileSystem) (script artifact : Path) (invocation : Invocation) :
    (judge .ignore fs script artifact invocation).1 =
        (judge .warn fs script artifact invocation).1 ∧
      Notice.calm (judge .ignore fs script artifact invocation).2 =
        Notice.calm (judge .warn fs script artifact invocation).2 ∧
      ∀ notice ∈ (judge .ignore fs script artifact invocation).2,
        ∃ event, notice = .event event := by
  cases hsucceeded : invocation.succeeded with
  | true =>
    simp only [judge, hsucceeded, ite_true, true_and]
    intro notice hmem
    split at hmem
    · cases hmem
    · exact ⟨_, List.mem_singleton.mp hmem⟩
  | false =>
    obtain ⟨hvalue, hignored, hwarned, hevents⟩ := verdict_hushed script invocation.failure
    simp only [judge, hsucceeded, Bool.false_eq_true, ite_false]
    exact ⟨hvalue, hignored.trans hwarned.symm, hevents⟩

/-- One script under the two policies. -/
theorem process_hushed (settings : Settings) (parser : Parser) (world : World) (script : Path) :
    Hushed (process (settings.withPolicy .warn) parser world script)
      (process (settings.withPolicy .ignore) parser world script) := by
  cases course settings parser world script with
  | current hskip =>
    rw [process_current (settings.withPolicy .warn) hskip,
      process_current (settings.withPolicy .ignore) hskip]
    exact ⟨rfl, rfl, rfl, rfl, fun notice hmem => ⟨_, List.mem_singleton.mp hmem⟩⟩
  | @notStarted failure _ hdue hparse =>
    rw [process_notStarted (settings.withPolicy .warn) hdue hparse,
      process_notStarted (settings.withPolicy .ignore) hdue hparse]
    obtain ⟨hvalue, hignored, hwarned, hevents⟩ := verdict_hushed script failure
    refine ⟨rfl, rfl, rfl, ?_, fun notice hmem => ?_⟩
    · simp only [Settings.withPolicy_onFailure, Notice.calm_append, hignored, hwarned]
      rfl
    · rcases List.mem_append.mp hmem with hremark | hverdict
      · exact remarkNotices_events hremark
      · exact hevents notice hverdict
  | refused hdue hparse hecho =>
    rw [process_refused (settings.withPolicy .warn) hdue hparse hecho,
      process_refused (settings.withPolicy .ignore) hdue hparse hecho]
    refine ⟨rfl, rfl, rfl, rfl, fun notice hmem => ?_⟩
    rcases List.mem_append.mp hmem with hremark | hechoed
    · exact remarkNotices_events hremark
    · exact echo_events hechoed
  | @finished invocation after hdue hparse hecho =>
    rw [process_finished (settings.withPolicy .warn) hdue hparse hecho,
      process_finished (settings.withPolicy .ignore) hdue hparse hecho]
    obtain ⟨hvalue, hnotices, hevents⟩ :=
      judge_hushed after script (Artifact.path script settings.outDir) invocation
    refine ⟨?_, rfl, rfl, ?_, fun notice hmem => ?_⟩
    · simp only [Settings.withPolicy_onFailure, Settings.withPolicy_outDir, hvalue]
    · simp only [Settings.withPolicy_onFailure, Settings.withPolicy_outDir, Notice.calm_append,
        hnotices]
      rfl
    · rcases List.mem_append.mp hmem with hmem | hjudged
      · rcases List.mem_append.mp hmem with hremark | hechoed
        · exact remarkNotices_events hremark
        · exact echo_events hechoed
      · exact hevents notice hjudged

/-- A batch under the two policies. -/
theorem runRecords_hushed (settings : Settings) (parser : Parser) (world : World)
    (scripts : List Path) :
    Hushed (runRecords (settings.withPolicy .warn) parser world scripts)
      (runRecords (settings.withPolicy .ignore) parser world scripts) := by
  induction scripts generalizing world with
  | nil => exact ⟨rfl, rfl, rfl, rfl, List.forall_mem_nil _⟩
  | cons script rest ih =>
    have hfirst := process_hushed settings parser world script
    cases hvalue : (process (settings.withPolicy .warn) parser world script).value with
    | error stop =>
      rw [runRecords_cons_of_error hvalue, runRecords_cons_of_error (hfirst.value.trans hvalue)]
      exact ⟨rfl, hfirst.world, hfirst.attempts, hfirst.notices, hfirst.events⟩
    | ok record =>
      rw [runRecords_cons_of_ok hvalue, runRecords_cons_of_ok (hfirst.value.trans hvalue),
        hfirst.world]
      have hrest := ih (process (settings.withPolicy .warn) parser world script).world
      refine ⟨?_, hrest.world, ?_, ?_, fun notice hmem => ?_⟩
      · simp only [Progress.followedBy, hrest.value]
      · simp only [Progress.followedBy, hfirst.attempts, hrest.attempts]
      · simp only [Progress.followedBy, Notice.calm_append, hfirst.notices, hrest.notices]
      · rcases List.mem_append.mp hmem with hmem | hmem
        · exact hfirst.events notice hmem
        · exact hrest.events notice hmem

/-- A collected batch under the two policies. -/
theorem collectAndRun_hushed (settings : Settings) (parser : Parser) (world : World) :
    Hushed (collectAndRun (settings.withPolicy .warn) parser world)
      (collectAndRun (settings.withPolicy .ignore) parser world) := by
  cases hcollect : Collect.scripts world.fs settings.scriptsDir
      (Collect.suffix settings.extension) with
  | error failure =>
    simp only [collectAndRun, Settings.withPolicy_scriptsDir, Settings.withPolicy_extension,
      hcollect]
    exact ⟨rfl, rfl, rfl, rfl, List.forall_mem_nil _⟩
  | ok scripts =>
    have hrun := runRecords_hushed settings parser world scripts
    simp only [collectAndRun, Settings.withPolicy_scriptsDir, Settings.withPolicy_extension,
      hcollect, run]
    refine ⟨by simp only [hrun.value], hrun.world, hrun.attempts, ?_, fun notice hmem => ?_⟩
    · rw [Notice.calm_cons, hrun.notices, ← Notice.calm_cons]
    · rcases List.mem_cons.mp hmem with rfl | hmem
      · exact ⟨_, rfl⟩
      · exact hrun.events notice hmem

end Batch

end Fixtures
