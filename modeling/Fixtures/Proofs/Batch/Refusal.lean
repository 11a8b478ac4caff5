import Mathlib
import Fixtures.Proofs.Batch.Abort
import Fixtures.Proofs.Batch.Echo
import Fixtures.Proofs.Batch.Effects

/-!
# Batches whose echo is refused

A batch with an echo does what it would do if nothing were refused, up to and including the first
call whose output is refused. There it ends, whatever the call came to and whatever the policy says.
What the writer has stored by then is the output of the calls, byte for byte, as far as there was
room for it.

A writer that takes a limited number of bytes makes no difference if there is room for all output.
Otherwise the first call counts with whose output there is more than fits. A writer whose flushes
fail makes no difference if no call was started. Otherwise the first call that was started counts,
even if it has no output, and the writer has stored its output.
-/

namespace Fixtures

open Batch

/-- A parser that was not started has no output. -/
theorem Batch.Attempt.output_of_not_started {call : Attempt} (h : call.started = false) :
    call.output = [] := by
  rcases call with ⟨script, outDir, result⟩
  cases result with
  | error failure => rfl
  | ok invocation => cases h

/-- What is left of a writer and some calls after their output was echoed. -/
structure Hearing where
  /-- The calls up to the first one that was refused, with that one. -/
  calls : List Attempt
  /-- Whether one was refused. -/
  refused : Bool
  /-- The writer afterwards. -/
  writer : Writer

namespace Writer

/-- Echoes the output of a call. A parser that was not started has none. -/
def hearCall (writer : Writer) (call : Attempt) : Bool × Writer :=
  match call.result with
  | .ok invocation => writer.write invocation.stdout
  | .error _ => (true, writer)

/-- Echoes the output of calls until one is refused. -/
def hear (writer : Writer) : List Attempt → Hearing
  | [] => ⟨[], false, writer⟩
  | call :: rest =>
    let heard := writer.hearCall call
    if heard.1 then { heard.2.hear rest with calls := call :: (heard.2.hear rest).calls }
    else ⟨[call], true, heard.2⟩

theorem hear_cons_of_taken {writer after : Writer} {call : Attempt}
    (h : writer.hearCall call = (true, after)) (rest : List Attempt) :
    writer.hear (call :: rest) =
      ⟨call :: (after.hear rest).calls, (after.hear rest).refused, (after.hear rest).writer⟩ := by
  simp only [hear, h, ite_true]

theorem hear_cons_of_refused {writer after : Writer} {call : Attempt}
    (h : writer.hearCall call = (false, after)) (rest : List Attempt) :
    writer.hear (call :: rest) = ⟨[call], true, after⟩ := by
  simp only [hear, h, Bool.false_eq_true, ite_false]

/-- After a refusal nothing more is heard. -/
theorem hear_append_of_refused {writer : Writer} {calls : List Attempt}
    (h : (writer.hear calls).refused = true) (others : List Attempt) :
    writer.hear (calls ++ others) = writer.hear calls := by
  induction calls generalizing writer with
  | nil => cases h
  | cons call rest ih =>
    rcases hheard : writer.hearCall call with ⟨taken, after⟩
    rw [List.cons_append]
    cases taken with
    | true =>
      rw [hear_cons_of_taken hheard] at h
      rw [hear_cons_of_taken hheard, hear_cons_of_taken hheard, ih h]
    | false => rw [hear_cons_of_refused hheard, hear_cons_of_refused hheard]

/-- If nothing is refused, the writer goes on to later calls. -/
theorem hear_append_of_taken {writer : Writer} {calls : List Attempt}
    (h : (writer.hear calls).refused = false) (others : List Attempt) :
    writer.hear (calls ++ others) =
      ⟨calls ++ ((writer.hear calls).writer.hear others).calls,
        ((writer.hear calls).writer.hear others).refused,
        ((writer.hear calls).writer.hear others).writer⟩ := by
  induction calls generalizing writer with
  | nil => rfl
  | cons call rest ih =>
    rcases hheard : writer.hearCall call with ⟨taken, after⟩
    rw [List.cons_append]
    cases taken with
    | true =>
      rw [hear_cons_of_taken hheard] at h
      rw [hear_cons_of_taken hheard, hear_cons_of_taken hheard, ih h]
      rfl
    | false =>
      rw [hear_cons_of_refused hheard] at h
      cases h

/-- If nothing is refused, all calls are heard. -/
theorem calls_hear {writer : Writer} {calls : List Attempt}
    (h : (writer.hear calls).refused = false) : (writer.hear calls).calls = calls := by
  have hall := congrArg Hearing.calls (hear_append_of_taken h [])
  simpa only [List.append_nil, hear] using hall

/-- A writer with a limit takes an output that there is room for, and of any other what fits. -/
theorem hearCall_of_room (stored : Bytes) (room : Nat) (call : Attempt) :
    (Writer.mk stored (some room) false).hearCall call =
      (decide (call.output.length ≤ room),
        ⟨stored ++ call.output.take room, some (room - call.output.length), false⟩) := by
  rcases call with ⟨script, outDir, result⟩
  cases result with
  | error failure => simp [hearCall, Attempt.output]
  | ok invocation =>
    have htaken : (min room invocation.stdout.length == invocation.stdout.length) =
        decide (invocation.stdout.length ≤ room) := by
      rw [Bool.eq_iff_iff]
      simp
    have hroom : room - min room invocation.stdout.length = room - invocation.stdout.length := by
      omega
    simp only [hearCall, write, taken, Attempt.output, Option.map_some, Option.getD_some, htaken,
      Bool.not_false, Bool.and_true, hroom, ← List.take_eq_take_min]
    rfl

/-- A writer with a limit hears all calls if there is room for their outputs. -/
theorem hear_of_fits {room : Nat} {calls : List Attempt}
    (h : (calls.flatMap Attempt.output).length ≤ room) (stored : Bytes) :
    (Writer.mk stored (some room) false).hear calls =
      ⟨calls, false, ⟨stored ++ calls.flatMap Attempt.output,
        some (room - (calls.flatMap Attempt.output).length), false⟩⟩ := by
  induction calls generalizing room stored with
  | nil => simp [hear]
  | cons call rest ih =>
    rw [List.flatMap_cons, List.length_append] at h
    have hcall := hearCall_of_room stored room call
    rw [decide_eq_true (by omega), List.take_of_length_le (by omega)] at hcall
    rw [hear_cons_of_taken hcall, ih (by omega), List.flatMap_cons, List.append_assoc,
      List.length_append, Nat.sub_sub]

/-- A writer with a limit refuses the first call that there is no room for, and has then stored as
much of the outputs as there was room for. -/
theorem hear_of_exceeds {room : Nat} {calls : List Attempt}
    (h : room < (calls.flatMap Attempt.output).length) (stored : Bytes) :
    ∃ k call, calls[k]? = some call ∧ ((calls.take k).flatMap Attempt.output).length ≤ room ∧
      room < ((calls.take (k + 1)).flatMap Attempt.output).length ∧
      (Writer.mk stored (some room) false).hear calls =
        ⟨calls.take (k + 1), true,
          ⟨stored ++ (calls.flatMap Attempt.output).take room, some 0, false⟩⟩ := by
  induction calls generalizing room stored with
  | nil => cases h
  | cons call rest ih =>
    rw [List.flatMap_cons] at h ⊢
    have hcall := hearCall_of_room stored room call
    by_cases hfits : call.output.length ≤ room
    · rw [List.length_append] at h
      rw [decide_eq_true hfits, List.take_of_length_le hfits] at hcall
      obtain ⟨k, refused, hk, hbefore, hbeyond, hheard⟩ :=
        ih (by omega : room - call.output.length < _) (stored ++ call.output)
      refine ⟨k + 1, refused, hk, ?_, ?_, ?_⟩
      · rw [List.take_succ_cons, List.flatMap_cons, List.length_append]
        omega
      · rw [List.take_succ_cons, List.flatMap_cons, List.length_append]
        omega
      · rw [hear_cons_of_taken hcall, hheard, List.take_succ_cons, List.take_append,
          List.take_of_length_le hfits, List.append_assoc]
    · rw [decide_eq_false hfits] at hcall
      refine ⟨0, call, rfl, Nat.zero_le room, ?_, ?_⟩
      · simpa using Nat.lt_of_not_le hfits
      · have hfull : room - call.output.length = 0 := by omega
        rw [hear_cons_of_refused hcall, List.take_append_of_le_length (by omega), hfull]
        rfl

/-- A writer whose flushes fail refuses every call that was started, and stores its output. -/
theorem hearCall_of_flushFails (stored : Bytes) (call : Attempt) :
    (Writer.mk stored none true).hearCall call =
      (!call.started, ⟨stored ++ call.output, none, true⟩) := by
  rcases call with ⟨script, outDir, result⟩
  cases result with
  | error failure => simp [hearCall, Attempt.output, Attempt.started, Except.isOk, Except.toBool]
  | ok invocation =>
    simp [hearCall, write, taken, Attempt.output, Attempt.started, Except.isOk, Except.toBool]

/-- A writer whose flushes fail hears all calls if none was started. -/
theorem hear_of_not_started {calls : List Attempt} (h : ∀ call ∈ calls, call.started = false)
    (stored : Bytes) :
    (Writer.mk stored none true).hear calls = ⟨calls, false, ⟨stored, none, true⟩⟩ := by
  induction calls with
  | nil => rfl
  | cons call rest ih =>
    obtain ⟨hfirst, hrest⟩ := List.forall_mem_cons.mp h
    have hcall := hearCall_of_flushFails stored call
    rw [hfirst, Attempt.output_of_not_started hfirst, List.append_nil] at hcall
    rw [hear_cons_of_taken hcall, ih hrest]

/-- A writer whose flushes fail refuses the first call that was started, and has then stored its
output alone. -/
theorem hear_of_started {calls : List Attempt} (h : ∃ call ∈ calls, call.started = true)
    (stored : Bytes) :
    ∃ k call, calls[k]? = some call ∧ call.started = true ∧
      (∀ earlier ∈ calls.take k, earlier.started = false) ∧
      (Writer.mk stored none true).hear calls =
        ⟨calls.take (k + 1), true, ⟨stored ++ call.output, none, true⟩⟩ := by
  induction calls with
  | nil => simp at h
  | cons call rest ih =>
    have hcall := hearCall_of_flushFails stored call
    cases hstarted : call.started with
    | true =>
      rw [hstarted] at hcall
      exact ⟨0, call, rfl, hstarted, by simp, hear_cons_of_refused hcall rest⟩
    | false =>
      rw [hstarted, Attempt.output_of_not_started hstarted, List.append_nil] at hcall
      have hrest : ∃ later ∈ rest, later.started = true := by
        obtain ⟨later, hlater, hyes⟩ := h
        rcases List.mem_cons.mp hlater with rfl | hlater
        · cases hstarted.symm.trans hyes
        · exact ⟨later, hlater, hyes⟩
      obtain ⟨k, refused, hk, hrefused, hearlier, hheard⟩ := ih hrest
      refine ⟨k + 1, refused, hk, hrefused, ?_, ?_⟩
      · rw [List.take_succ_cons]
        exact List.forall_mem_cons.mpr ⟨hstarted, hearlier⟩
      · rw [hear_cons_of_taken hcall, hheard, List.take_succ_cons]

end Writer

namespace Batch

/-- A part of a batch that echoes to `writer`, beside the same part of a batch of which nothing is
refused. -/
structure Overheard {α : Type} (writer : Writer) (loud free : Progress α) : Prop where
  /-- The calls are those that are heard. -/
  attempts : loud.attempts = (writer.hear free.attempts).calls
  /-- The writer is left as the calls leave it. -/
  left : loud.world.writer = (writer.hear free.attempts).writer
  /-- If nothing is refused, there is no difference. -/
  taken : (writer.hear free.attempts).refused = false →
    loud.value = free.value ∧ loud.world.fs = free.world.fs ∧ loud.notices = free.notices
  /-- A refusal is what the batch ends with. -/
  refused : (writer.hear free.attempts).refused = true → loud.value = .error .outputRefused

/-- With an echo, what is said and judged of an invocation does not depend on the writer. -/
theorem echo_verbose (writer : Writer) (invocation : Invocation) :
    echo true writer invocation =
      ((writer.write invocation.stdout).1, (writer.write invocation.stdout).2, []) := rfl

/-- Where all of the calls are heard, nothing differs. -/
theorem Overheard.of_taken {α : Type} {writer after : Writer} {loud free : Progress α}
    (hheard : writer.hear free.attempts = ⟨free.attempts, false, after⟩)
    (hvalue : loud.value = free.value) (hattempts : loud.attempts = free.attempts)
    (hfs : loud.world.fs = free.world.fs) (hnotices : loud.notices = free.notices)
    (hwriter : loud.world.writer = after) : Overheard writer loud free := by
  refine ⟨?_, ?_, fun _ => ⟨hvalue, hfs, hnotices⟩, ?_⟩
  · rw [hheard, hattempts]
  · rw [hheard, hwriter]
  · rw [hheard]
    exact fun h => absurd h Bool.false_ne_true

section Step

variable {settings : Settings} (hverbose : settings.verbose = true) (parser : Parser)
  {loud free : World} (hfs : loud.fs = free.fs) (hreliable : free.writer.Reliable)

include hverbose hfs hreliable

/-- One script, for a writer that may refuse its output. -/
theorem process_overheard (script : Path) :
    Overheard loud.writer (process settings parser loud script)
      (process settings parser free script) := by
  cases course settings parser loud script with
  | current hskip =>
    have hfree : skips settings free.fs script = true := by rwa [← hfs]
    rw [process_current settings hskip, process_current settings hfree]
    exact .of_taken rfl rfl rfl hfs rfl rfl
  | @notStarted failure after hdue hparse =>
    have hfree : skips settings free.fs script = false := by rwa [← hfs]
    have hparsed : parser.parse free.fs script settings.outDir = (.error failure, after) := by
      rwa [← hfs]
    rw [process_notStarted settings hdue hparse, process_notStarted settings hfree hparsed]
    exact .of_taken rfl rfl rfl rfl rfl rfl
  | @refused invocation after hdue hparse hecho =>
    have hfree : skips settings free.fs script = false := by rwa [← hfs]
    have hparsed : parser.parse free.fs script settings.outDir = (.ok invocation, after) := by
      rwa [← hfs]
    have htaken := (echo_of_reliable hreliable settings.verbose invocation).1
    rw [process_refused settings hdue hparse hecho, process_finished settings hfree hparsed htaken]
    simp only [hverbose, echo_verbose] at hecho ⊢
    have hcall : loud.writer.hearCall ⟨script, settings.outDir, .ok invocation⟩ =
        (false, (loud.writer.write invocation.stdout).2) := Prod.ext hecho rfl
    have hheard := Writer.hear_cons_of_refused hcall []
    refine ⟨by rw [hheard], by rw [hheard], fun h => ?_, fun _ => rfl⟩
    rw [hheard] at h
    cases h
  | @finished invocation after hdue hparse hecho =>
    have hfree : skips settings free.fs script = false := by rwa [← hfs]
    have hparsed : parser.parse free.fs script settings.outDir = (.ok invocation, after) := by
      rwa [← hfs]
    have htaken := (echo_of_reliable hreliable settings.verbose invocation).1
    rw [process_finished settings hdue hparse hecho, process_finished settings hfree hparsed htaken]
    simp only [hverbose, echo_verbose] at hecho ⊢
    have hcall : loud.writer.hearCall ⟨script, settings.outDir, .ok invocation⟩ =
        (true, (loud.writer.write invocation.stdout).2) := Prod.ext hecho rfl
    exact .of_taken (Writer.hear_cons_of_taken hcall []) rfl rfl rfl rfl rfl

/-- A batch, for a writer that may refuse its output. -/
theorem runRecords_overheard (scripts : List Path) :
    Overheard loud.writer (runRecords settings parser loud scripts)
      (runRecords settings parser free scripts) := by
  induction scripts generalizing loud free with
  | nil => exact .of_taken rfl rfl rfl hfs rfl rfl
  | cons script rest ih =>
    have hstep := process_overheard hverbose parser hfs hreliable script
    cases hrefused : (loud.writer.hear (process settings parser free script).attempts).refused with
    | true =>
      -- The batch ends here, and what the other one calls later is not heard.
      rw [runRecords_cons_of_error (hstep.refused hrefused)]
      have hheard : loud.writer.hear (runRecords settings parser free (script :: rest)).attempts =
          loud.writer.hear (process settings parser free script).attempts := by
        cases hfirst : (process settings parser free script).value with
        | error stop => rw [runRecords_cons_of_error hfirst]
        | ok record =>
          rw [runRecords_cons_of_ok hfirst, Progress.followedBy,
            Writer.hear_append_of_refused hrefused]
      refine ⟨?_, ?_, fun h => ?_, fun _ => rfl⟩
      · rw [hheard, ← hstep.attempts]
      · rw [hheard, ← hstep.left]
      · rw [hheard, hrefused] at h
        cases h
    | false =>
      obtain ⟨hvalue, hafter, hnotices⟩ := hstep.taken hrefused
      have hattempts := hstep.attempts.trans (Writer.calls_hear hrefused)
      cases hfirst : (process settings parser free script).value with
      | error stop =>
        rw [runRecords_cons_of_error hfirst, runRecords_cons_of_error (hvalue.trans hfirst)]
        exact ⟨hstep.attempts, hstep.left, fun _ => ⟨rfl, hafter, hnotices⟩,
          fun h => absurd (hrefused.symm.trans h) Bool.false_ne_true⟩
      | ok record =>
        have hrest := ih hafter (process_reliable settings parser hreliable script)
        rw [hstep.left] at hrest
        rw [runRecords_cons_of_ok hfirst, runRecords_cons_of_ok (hvalue.trans hfirst)]
        simp only [Progress.followedBy]
        have hheard := Writer.hear_append_of_taken hrefused
          (runRecords settings parser (process settings parser free script).world rest).attempts
        refine ⟨?_, ?_, ?_, ?_⟩
        · rw [hheard, hattempts, hrest.attempts]
        · rw [hheard, hrest.left]
        · rw [hheard]
          intro h
          obtain ⟨hvalue', hfs', hnotices'⟩ := hrest.taken h
          exact ⟨by rw [hvalue'], hfs', by rw [hnotices, hnotices']⟩
        · rw [hheard]
          intro h
          rw [hrest.refused h]
          rfl

end Step

/-- A batch beside the same batch of which nothing is refused. -/
theorem run_overheard {settings : Settings} (hverbose : settings.verbose = true) (parser : Parser)
    (fs : FileSystem) (writer : Writer) (scripts : List Path) :
    Overheard writer (run settings parser ⟨fs, writer⟩ scripts)
      (run settings parser ⟨fs, {}⟩ scripts) := by
  have hreliable : (Writer.mk [] none false).Reliable := (Writer.reliable_iff _).mpr ⟨rfl, rfl⟩
  have hrecords := @runRecords_overheard settings hverbose parser ⟨fs, writer⟩ ⟨fs, {}⟩ rfl
    hreliable scripts
  refine ⟨hrecords.attempts, hrecords.left, fun h => ?_, fun h => ?_⟩
  · obtain ⟨hvalue, hrest⟩ := hrecords.taken h
    exact ⟨congrArg (Except.map Tally.ofRecords) hvalue, hrest⟩
  · exact congrArg (Except.map Tally.ofRecords) (hrecords.refused h)

/-- A batch of which nothing is refused stores the output of its calls. -/
theorem run_stored {settings : Settings} (hverbose : settings.verbose = true) (parser : Parser)
    (fs : FileSystem) (scripts : List Path) :
    (run settings parser ⟨fs, {}⟩ scripts).world.writer.stored =
      (run settings parser ⟨fs, {}⟩ scripts).attempts.flatMap Attempt.output := by
  have hreliable : (Writer.mk [] none false).Reliable := (Writer.reliable_iff _).mpr ⟨rfl, rfl⟩
  have hsettings : settings.withVerbose true = settings := by rw [Settings.withVerbose, ← hverbose]
  have hechoed := @runRecords_echoed settings parser ⟨fs, {}⟩ ⟨fs, {}⟩ rfl hreliable scripts
  rw [hsettings] at hechoed
  exact congrArg Writer.stored hechoed.stored

/-- A batch that does what another one does, and stores the same. -/
structure SameRun (free other : Progress Tally) : Prop where
  /-- Both come to the same. -/
  value : other.value = free.value
  /-- Both make the same calls. -/
  attempts : other.attempts = free.attempts
  /-- Both leave the same files. -/
  fs : other.world.fs = free.world.fs
  /-- Both say the same. -/
  notices : other.notices = free.notices
  /-- Both store the same bytes. -/
  stored : other.world.writer.stored = free.world.writer.stored

/-- A batch that ends with a refusal where another one makes its call number `k`, counted from
zero, and has stored some bytes. -/
structure RefusedAt (parser : Parser) (fs : FileSystem) (free other : Progress Tally) (k : Nat)
    (stored : Bytes) : Prop where
  /-- It ends with the refusal. -/
  value : other.value = .error .outputRefused
  /-- It makes this call and those before it. -/
  attempts : other.attempts = free.attempts.take (k + 1)
  /-- The files are what these calls left. -/
  fs : other.world.fs = effects parser fs (free.attempts.take (k + 1))
  /-- These bytes are stored. -/
  stored : other.world.writer.stored = stored

section Writers

variable {parser : Parser} {fs : FileSystem} {free other : Progress Tally} {writer after : Writer}

/-- A batch whose writer hears all calls is the same. -/
theorem Overheard.sameRun (h : Overheard writer other free)
    (hheard : writer.hear free.attempts = ⟨free.attempts, false, after⟩)
    (hstored : after.stored = free.world.writer.stored) : SameRun free other := by
  obtain ⟨hvalue, hfs, hnotices⟩ := h.taken (by rw [hheard])
  exact ⟨hvalue, by rw [h.attempts, hheard], hfs, hnotices, by rw [h.left, hheard, hstored]⟩

/-- A batch whose writer refuses a call ends there. -/
theorem Overheard.refusedAt (h : Overheard writer other free) (htraced : Traced parser fs other)
    {k : Nat} (hheard : writer.hear free.attempts = ⟨free.attempts.take (k + 1), true, after⟩) :
    RefusedAt parser fs free other k after.stored := by
  have hattempts : other.attempts = free.attempts.take (k + 1) := by rw [h.attempts, hheard]
  exact ⟨h.refused (by rw [hheard]), hattempts, by rw [htraced.left, hattempts],
    by rw [h.left, hheard]⟩

end Writers

/-- A batch with an echo ends at the first call whose output is refused, and is otherwise the batch
`free` of which nothing is refused. -/
theorem run_ends_at_refusal (settings : Settings) (hverbose : settings.verbose = true)
    (parser : Parser) (fs : FileSystem) (scripts : List Path) :
    let free := run settings parser ⟨fs, {}⟩ scripts
    let output := fun calls : List Attempt => calls.flatMap Attempt.output
    free.world.writer.stored = output free.attempts ∧
    (∀ limit, let limited := run settings parser ⟨fs, { room := some limit }⟩ scripts
      ((output free.attempts).length ≤ limit → SameRun free limited) ∧
      (limit < (output free.attempts).length →
        ∃ k call, free.attempts[k]? = some call ∧
          (output (free.attempts.take k)).length ≤ limit ∧
          limit < (output (free.attempts.take (k + 1))).length ∧
          RefusedAt parser fs free limited k ((output free.attempts).take limit))) ∧
    let unflushed := run settings parser ⟨fs, { flushFails := true }⟩ scripts
    ((∀ call ∈ free.attempts, call.started = false) → SameRun free unflushed) ∧
    ((∃ call ∈ free.attempts, call.started = true) →
      ∃ k call, free.attempts[k]? = some call ∧ call.started = true ∧
        (∀ earlier ∈ free.attempts.take k, earlier.started = false) ∧
        RefusedAt parser fs free unflushed k call.output) := by
  intro free output
  have hstored : free.world.writer.stored = output free.attempts :=
    run_stored hverbose parser fs scripts
  have hover := fun writer => run_overheard hverbose parser fs writer scripts
  have htraced := fun writer => run_traced settings parser ⟨fs, writer⟩ scripts
  refine ⟨hstored, fun limit => ⟨fun hfits => ?_, fun hexceeds => ?_⟩, fun hnone => ?_,
    fun hsome => ?_⟩
  · exact (hover _).sameRun (Writer.hear_of_fits hfits []) hstored.symm
  · obtain ⟨k, call, hcall, hbefore, hbeyond, hheard⟩ := Writer.hear_of_exceeds hexceeds []
    exact ⟨k, call, hcall, hbefore, hbeyond, (hover _).refusedAt (htraced _) hheard⟩
  · refine (hover _).sameRun (Writer.hear_of_not_started hnone []) ?_
    rw [hstored]
    refine (List.flatMap_eq_nil_iff.mpr fun call hcall => ?_).symm
    exact Attempt.output_of_not_started (hnone call hcall)
  · obtain ⟨k, call, hcall, hstarted, hearlier, hheard⟩ := Writer.hear_of_started hsome []
    exact ⟨k, call, hcall, hstarted, hearlier, (hover _).refusedAt (htraced _) hheard⟩

/-- With room for one byte, the second of three scripts is refused, though it also failed under the
policy that stops. With failing flushes the first one is. -/
theorem run_ends_at_refusal_of_second :
    let settings : Settings := { verbose := true, onFailure := .abort }
    let fs : FileSystem := ⟨[], List.nodup_nil, [], 0, true⟩
    let scripts : List Path := [[0x61], [0x62], [0x63]]
    let limited := run settings rejectingParser ⟨fs, { room := some 1 }⟩ scripts
    let unflushed := run settings rejectingParser ⟨fs, { flushFails := true }⟩ scripts
    limited.value = .error .outputRefused ∧
      limited.attempts.map Attempt.script = [[0x61], [0x62]] ∧
      limited.world.writer.stored = [0x61] ∧
      unflushed.value = .error .outputRefused ∧
      unflushed.attempts.map Attempt.script = [[0x61]] ∧
      unflushed.world.writer.stored = [0x61] := by
  intro settings fs scripts limited unflushed
  let calls : List Attempt :=
    [⟨[0x61], settings.outDir, .ok ⟨"p", some 0, [0x61], []⟩⟩,
      ⟨[0x62], settings.outDir, .ok ⟨"p", some 1, [0x62], Utf8.encode "no \n"⟩⟩]
  have hfree : (run settings rejectingParser ⟨fs, {}⟩ scripts).attempts = calls := rfl
  obtain ⟨-, hlimited, -, hunflushed⟩ := run_ends_at_refusal settings rfl rejectingParser fs scripts
  rw [hfree] at hlimited hunflushed
  obtain ⟨k, call, hcall, hbefore, hbeyond, hrefused⟩ := (hlimited 1).2 (by decide)
  obtain ⟨j, first, hfirst, -, hearlier, hstopped⟩ :=
    hunflushed ⟨_, List.mem_cons_self, rfl⟩
  have hk : k = 1 := by
    have hlast : k < 2 := (List.getElem?_eq_some_iff.mp hcall).1
    interval_cases k
    · exact absurd hbeyond (by decide)
    · rfl
  have hj : j = 0 := by
    have hlast : j < 2 := (List.getElem?_eq_some_iff.mp hfirst).1
    interval_cases j
    · rfl
    · cases hearlier _ List.mem_cons_self
  subst hk hj
  cases hfirst
  refine ⟨hrefused.value, ?_, hrefused.stored, hstopped.value, ?_, hstopped.stored⟩
  · rw [hrefused.attempts, hfree]
    rfl
  · rw [hstopped.attempts, hfree]
    rfl

end Batch

end Fixtures
