import Fixtures.Proofs.Batch.Run

/-!
# The echo of a batch

A batch with an echo does the same as one without it, as long as no echo is refused: the same calls
on the same files, the same records and the same end. It stores the output of its calls one after
another, byte for byte; a batch without an echo stores nothing and instead notes the output in
events that are not shown by default.
-/

namespace Fixtures

namespace Writer

/-- The writer with more bytes stored. -/
def storing (writer : Writer) (bytes : Bytes) : Writer :=
  { writer with stored := writer.stored ++ bytes }

theorem storing_nil (writer : Writer) : writer.storing [] = writer := by
  rw [storing, List.append_nil]

theorem storing_storing (writer : Writer) (bytes others : Bytes) :
    (writer.storing bytes).storing others = writer.storing (bytes ++ others) := by
  simp only [storing, List.append_assoc]

/-- A reliable writer stores all bytes and nothing else. -/
theorem Reliable.write {writer : Writer} (h : writer.Reliable) (bytes : Bytes) :
    writer.write bytes = (true, writer.storing bytes) := by
  obtain ⟨hroom, hflush⟩ := (reliable_iff writer).mp h
  simp [Writer.write, taken, storing, hroom, hflush]

end Writer

namespace Batch

/-- What was captured of a call: the standard output of its invocation, if there was one. -/
def Attempt.output (call : Attempt) : Bytes :=
  match call.result with
  | .ok invocation => invocation.stdout
  | .error _ => []

/-- Two parts that differ at most in their writers and in what is not shown by default. -/
structure Alike {α : Type} (loud quiet : Progress α) : Prop where
  /-- Both have the same value or end with the same failure. -/
  value : loud.value = quiet.value
  /-- Both make the same calls. -/
  attempts : loud.attempts = quiet.attempts
  /-- Both show the same by default. -/
  notices : loud.notices.filter (Notice.shown Log.Filter.standard) =
    quiet.notices.filter (Notice.shown Log.Filter.standard)
  /-- Both leave the same files. -/
  fs : loud.world.fs = quiet.world.fs

/-- A part of a batch with an echo into the writer `start`, beside the same part of a batch without
one that has the writer `still`. -/
structure Echoed {α : Type} (start still : Writer) (loud quiet : Progress α) : Prop
    extends Alike loud quiet where
  /-- The one with an echo has stored the output of its calls. -/
  stored : loud.world.writer = start.storing (loud.attempts.flatMap Attempt.output)
  /-- The one without an echo has stored nothing. -/
  silent : quiet.world.writer = still

/-- Where nothing is called and the world stays as it is, there is nothing to echo. -/
theorem Echoed.idle {α : Type} (value : Except Failure α) {loud quiet : World}
    (hfs : loud.fs = quiet.fs) (notices : List Notice) :
    Echoed loud.writer quiet.writer ⟨value, loud, [], notices⟩ ⟨value, quiet, [], notices⟩ :=
  ⟨⟨rfl, rfl, rfl, hfs⟩, (Writer.storing_nil _).symm, rfl⟩

/-- Output that is only noted is not shown by default. -/
theorem filter_echo_quiet (writer : Writer) (invocation : Invocation) :
    (echo false writer invocation).2.2.filter (Notice.shown Log.Filter.standard) = [] := by
  have hhidden := event_not_shown (by decide : 2 < Log.Level.trace.rank) "parser output"
    [("stdout", invocation.stdoutText)]
  exact List.filter_cons_of_neg (by rw [hhidden]; exact Bool.false_ne_true)

/-- One script with and without an echo. -/
theorem process_echoed (settings : Settings) (parser : Parser) {loud quiet : World}
    (hfs : loud.fs = quiet.fs) (hreliable : loud.writer.Reliable) (script : Path) :
    Echoed loud.writer quiet.writer (process (settings.withVerbose true) parser loud script)
      (process (settings.withVerbose false) parser quiet script) := by
  cases course (settings.withVerbose false) parser quiet script with
  | current hskip =>
    have hloud : skips (settings.withVerbose true) loud.fs script = true := by rwa [hfs]
    rw [process_current (settings.withVerbose true) hloud,
      process_current (settings.withVerbose false) hskip]
    exact .idle _ hfs _
  | @notStarted failure after hdue hparse =>
    have hloud : skips (settings.withVerbose true) loud.fs script = false := by rwa [hfs]
    have hparsed : parser.parse loud.fs script (settings.withVerbose true).outDir =
        (.error failure, after) := by rwa [hfs]
    rw [process_notStarted (settings.withVerbose true) hloud hparsed,
      process_notStarted (settings.withVerbose false) hdue hparse]
    exact ⟨⟨rfl, rfl, rfl, rfl⟩, (Writer.storing_nil _).symm, rfl⟩
  | refused _ _ hecho => cases hecho
  | @finished invocation after hdue hparse hecho =>
    have hloud : skips (settings.withVerbose true) loud.fs script = false := by rwa [hfs]
    have hparsed : parser.parse loud.fs script (settings.withVerbose true).outDir =
        (.ok invocation, after) := by rwa [hfs]
    have hstored : echo (settings.withVerbose true).verbose loud.writer invocation =
        (true, loud.writer.storing invocation.stdout, []) := by
      rw [Settings.withVerbose_verbose, echo, if_pos rfl, hreliable.write]
    rw [process_finished (settings.withVerbose true) hloud hparsed (by rw [hstored]),
      process_finished (settings.withVerbose false) hdue hparse hecho, hstored]
    refine ⟨⟨rfl, rfl, ?_, rfl⟩, ?_, rfl⟩
    · simp only [Settings.withVerbose_verbose, List.filter_append, filter_echo_quiet,
        List.filter_nil]
      rfl
    · simp only [List.flatMap_singleton, Attempt.output]

/-- A batch with and without an echo. -/
theorem runRecords_echoed (settings : Settings) (parser : Parser) {loud quiet : World}
    (hfs : loud.fs = quiet.fs) (hreliable : loud.writer.Reliable) (scripts : List Path) :
    Echoed loud.writer quiet.writer (runRecords (settings.withVerbose true) parser loud scripts)
      (runRecords (settings.withVerbose false) parser quiet scripts) := by
  -- The two worlds differ in their writers alone, and the one with the echo stays reliable.
  induction scripts generalizing loud quiet with
  | nil => exact .idle _ hfs _
  | cons script rest ih =>
    have hfirst := process_echoed settings parser hfs hreliable script
    cases hvalue : (process (settings.withVerbose false) parser quiet script).value with
    | error failure =>
      rw [runRecords_cons_of_error hvalue, runRecords_cons_of_error (hfirst.value.trans hvalue)]
      exact ⟨⟨rfl, hfirst.attempts, hfirst.notices, hfirst.fs⟩, hfirst.stored, hfirst.silent⟩
    | ok record =>
      have hrest := ih hfirst.fs (process_reliable _ parser hreliable script)
      rw [runRecords_cons_of_ok hvalue, runRecords_cons_of_ok (hfirst.value.trans hvalue)]
      refine ⟨⟨?_, ?_, ?_, hrest.fs⟩, ?_, hrest.silent.trans hfirst.silent⟩
      · simp only [Progress.followedBy, hrest.value]
      · simp only [Progress.followedBy, hfirst.attempts, hrest.attempts]
      · simp only [Progress.followedBy, List.filter_append, hfirst.notices, hrest.notices]
      · simp only [Progress.followedBy, List.flatMap_append, ← Writer.storing_storing,
          ← hfirst.stored, hrest.stored]

end Batch

end Fixtures
