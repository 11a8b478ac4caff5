import Fixtures.Proofs.Batch.Abort
import Fixtures.Proofs.Computation

/-!
# Batches one after another

Nothing but the files and what is left of the writer passes from one script to the next. The batch
on two lists of scripts in a row is therefore the batch on the first list and, if that one comes
through, a batch of its own on the second list: calls, notices and stored output follow each other,
and the tallies add up. What a writer has stored earlier makes no difference to a batch.
-/

namespace Fixtures

namespace Writer

/-- The writer with `earlier` stored before what it has stored. -/
def behind (writer : Writer) (earlier : Bytes) : Writer :=
  { writer with stored := earlier ++ writer.stored }

/-- What is stored already has no part in what a write takes and refuses. -/
theorem write_behind (writer : Writer) (earlier bytes : Bytes) :
    (writer.behind earlier).write bytes =
      ((writer.write bytes).1, (writer.write bytes).2.behind earlier) := by
  simp only [write, behind, taken, List.append_assoc]

end Writer

namespace Batch

/-- The world with `earlier` stored before what its writer has stored. -/
def World.behind (world : World) (earlier : Bytes) : World :=
  ⟨world.fs, world.writer.behind earlier⟩

/-- The world with a writer that has stored nothing. It has the same room left, and its flushes fail
as before. -/
def World.emptied (world : World) : World := ⟨world.fs, { world.writer with stored := [] }⟩

/-- A world is its emptied one behind what it has stored. -/
theorem World.emptied_behind (world : World) :
    world.emptied.behind world.writer.stored = world := by
  simp only [emptied, behind, Writer.behind, List.append_nil]

/-- The part of a batch with `earlier` stored before what it has stored. -/
def Progress.behind {α : Type} (part : Progress α) (earlier : Bytes) : Progress α :=
  { part with world := part.world.behind earlier }

variable {settings : Settings} {parser : Parser}

/-- An echo behind earlier output. -/
theorem echo_behind (verbose : Bool) (writer : Writer) (earlier : Bytes) (invocation : Invocation) :
    echo verbose (writer.behind earlier) invocation =
      ((echo verbose writer invocation).1, (echo verbose writer invocation).2.1.behind earlier,
        (echo verbose writer invocation).2.2) := by
  cases verbose with
  | false => rfl
  | true => simp only [echo, ite_true, Writer.write_behind]

/-- One script behind earlier output. -/
theorem process_behind (settings : Settings) (parser : Parser) (world : World) (earlier : Bytes)
    (script : Path) :
    process settings parser (world.behind earlier) script =
      (process settings parser world script).behind earlier := by
  cases course settings parser world script with
  | current hskip =>
    have hskip' : skips settings (world.behind earlier).fs script = true := hskip
    rw [process_current settings hskip, process_current settings hskip']
    rfl
  | @notStarted failure after hdue hparse =>
    have hdue' : skips settings (world.behind earlier).fs script = false := hdue
    have hparse' : parser.parse (world.behind earlier).fs script settings.outDir =
        (.error failure, after) := hparse
    rw [process_notStarted settings hdue hparse, process_notStarted settings hdue' hparse']
    rfl
  | @refused invocation after hdue hparse hecho =>
    have hdue' : skips settings (world.behind earlier).fs script = false := hdue
    have hparse' : parser.parse (world.behind earlier).fs script settings.outDir =
        (.ok invocation, after) := hparse
    have hechoed := echo_behind settings.verbose world.writer earlier invocation
    have hecho' : (echo settings.verbose (world.behind earlier).writer invocation).1 = false := by
      rw [World.behind, hechoed, hecho]
    rw [process_refused settings hdue hparse hecho, process_refused settings hdue' hparse' hecho',
      World.behind, hechoed]
    rfl
  | @finished invocation after hdue hparse hecho =>
    have hdue' : skips settings (world.behind earlier).fs script = false := hdue
    have hparse' : parser.parse (world.behind earlier).fs script settings.outDir =
        (.ok invocation, after) := hparse
    have hechoed := echo_behind settings.verbose world.writer earlier invocation
    have hecho' : (echo settings.verbose (world.behind earlier).writer invocation).1 = true := by
      rw [World.behind, hechoed, hecho]
    rw [process_finished settings hdue hparse hecho,
      process_finished settings hdue' hparse' hecho', World.behind, hechoed]
    rfl

/-- A batch behind earlier output. -/
theorem runRecords_behind (settings : Settings) (parser : Parser) (world : World) (earlier : Bytes)
    (scripts : List Path) :
    runRecords settings parser (world.behind earlier) scripts =
      (runRecords settings parser world scripts).behind earlier := by
  induction scripts generalizing world with
  | nil => rfl
  | cons script rest ih =>
    have hfirst := process_behind settings parser world earlier script
    cases hvalue : (process settings parser world script).value with
    | error failure =>
      have hvalue' : (process settings parser (world.behind earlier) script).value =
          .error failure := by rw [hfirst, Progress.behind, hvalue]
      rw [runRecords_cons_of_error hvalue, runRecords_cons_of_error hvalue', hfirst]
      rfl
    | ok record =>
      have hvalue' : (process settings parser (world.behind earlier) script).value =
          .ok record := by rw [hfirst, Progress.behind, hvalue]
      rw [runRecords_cons_of_ok hvalue, runRecords_cons_of_ok hvalue', hfirst]
      simp only [Progress.behind, ih]
      rfl

/-- What a writer has stored before a batch stays in front, and makes no other difference. -/
theorem run_behind (settings : Settings) (parser : Parser) (world : World) (earlier : Bytes)
    (scripts : List Path) :
    run settings parser (world.behind earlier) scripts =
      (run settings parser world scripts).behind earlier := by
  simp only [run, runRecords_behind]
  rfl

/-- A batch that ends in its first part is that part. -/
theorem run_append_of_error {world : World} {xs : List Path} {failure : Failure}
    (h : (run settings parser world xs).value = .error failure) (ys : List Path) :
    run settings parser world (xs ++ ys) = run settings parser world xs := by
  have hrecords := map_eq_error_iff.mp h
  simp only [run, runRecords_append_of_error hrecords]

/-- A batch that comes through its first part goes on from the world that this part left, and adds
to its tally. -/
theorem run_append_of_ok {world : World} {xs : List Path} {tally : Tally}
    (h : (run settings parser world xs).value = .ok tally) (ys : List Path) :
    run settings parser world (xs ++ ys) =
      { value :=
          (run settings parser (run settings parser world xs).world ys).value.map tally.append
        world := (run settings parser (run settings parser world xs).world ys).world
        attempts := (run settings parser world xs).attempts ++
          (run settings parser (run settings parser world xs).world ys).attempts
        notices := (run settings parser world xs).notices ++
          (run settings parser (run settings parser world xs).world ys).notices } := by
  obtain ⟨records, hrecords, rfl⟩ := map_eq_ok_iff.mp h
  simp only [run, runRecords_append_of_ok hrecords, Progress.followedBy]
  cases (runRecords settings parser (runRecords settings parser world xs).world ys).value with
  | error failure => rfl
  | ok others => simp only [Except.map, Tally.ofRecords_append]

/-- The batch on two lists of scripts in a row is the batch on the first one and, unless that fails,
a batch on the second one behind it. -/
theorem run_is_run_after_run (settings : Settings) (parser : Parser) (world : World)
    (xs ys : List Path) :
    let first := run settings parser world xs
    let second := run settings parser first.world.emptied ys
    let whole := run settings parser world (xs ++ ys)
    (∀ failure, first.value = .error failure → whole = first) ∧
    ∀ tally, first.value = .ok tally →
      whole =
        { value := second.value.map tally.append
          world := second.world.behind first.world.writer.stored
          attempts := first.attempts ++ second.attempts
          notices := first.notices ++ second.notices } := by
  intro first second whole
  refine ⟨fun failure hfailure => run_append_of_error hfailure ys, fun tally htally => ?_⟩
  -- The second batch starts with an empty store; what the first one stored is put in front of it.
  have hsecond : run settings parser first.world ys = second.behind first.world.writer.stored := by
    rw [← run_behind, World.emptied_behind]
  have hwhole := run_append_of_ok htally ys
  rw [hsecond] at hwhole
  exact hwhole

/-- With room for three bytes, two scripts leave room for one. A third script takes it, and a fourth
is refused. -/
theorem run_is_run_after_run_limited :
    let settings : Settings := { verbose := true }
    let world : World := ⟨⟨[], List.nodup_nil, [], 0, true⟩, { room := some 3 }⟩
    let three := run settings rejectingParser world ([[0x61], [0x62]] ++ [[0x63]])
    let four := run settings rejectingParser world ([[0x61], [0x62]] ++ [[0x63], [0x64]])
    three.value.toOption.map (fun tally => (tally.success, tally.failed)) = some (2, 1) ∧
      three.world.writer.stored = [0x61, 0x62, 0x63] ∧
      four.value = .error .outputRefused ∧
      four.attempts.map Attempt.script = [[0x61], [0x62], [0x63], [0x64]] ∧
      four.world.writer.stored = [0x61, 0x62, 0x63] := by
  intro settings world three four
  have hthree := (run_is_run_after_run settings rejectingParser world [[0x61], [0x62]] [[0x63]]).2
    _ rfl
  have hfour := (run_is_run_after_run settings rejectingParser world [[0x61], [0x62]]
    [[0x63], [0x64]]).2 _ rfl
  simp only [three, four]
  rw [hthree, hfour]
  exact ⟨rfl, rfl, rfl, rfl, rfl⟩

end Batch

end Fixtures
