import Fixtures.Proofs.Batch.Step

/-!
# Batches in parts

The batch on two lists of scripts in a row is the batch on the first list and, unless that one
ended early, the batch on the second list from the world that the first one left. A batch can
therefore be cut after any script: what it had done by then is the batch on the scripts up to there.
-/

namespace Fixtures.Batch

/-- A part of a batch that left `records`, with all that came after it. -/
def Progress.followedBy {α : Type} (first : Progress α) (records : List Record)
    (others : Progress (List Record)) : Progress (List Record) where
  value := others.value.map (records ++ ·)
  world := others.world
  attempts := first.attempts ++ others.attempts
  notices := first.notices ++ others.notices

/-- Following up in two steps is following up once. -/
theorem Progress.followedBy_followedBy {α β : Type} (first : Progress α) (second : Progress β)
    (xs ys : List Record) (others : Progress (List Record)) :
    first.followedBy xs (second.followedBy ys others) =
      Progress.followedBy ⟨second.value, second.world, first.attempts ++ second.attempts,
        first.notices ++ second.notices⟩ (xs ++ ys) others := by
  simp only [followedBy, List.append_assoc, mk.injEq, and_true]
  cases others.value <;> simp [Except.map]

variable {settings : Settings} {parser : Parser}

/-- The batch that goes on after its first script. -/
theorem runRecords_cons_of_ok {world : World} {script : Path} {record : Record}
    (h : (process settings parser world script).value = .ok record) (rest : List Path) :
    runRecords settings parser world (script :: rest) =
      (process settings parser world script).followedBy [record]
        (runRecords settings parser (process settings parser world script).world rest) := by
  simp only [runRecords, h]
  rfl

/-- The batch that ends with its first script. -/
theorem runRecords_cons_of_error {world : World} {script : Path} {failure : Failure}
    (h : (process settings parser world script).value = .error failure) (rest : List Path) :
    runRecords settings parser world (script :: rest) =
      ⟨.error failure, (process settings parser world script).world,
        (process settings parser world script).attempts,
        (process settings parser world script).notices⟩ := by
  simp only [runRecords, h]

/-- A batch comes through exactly if its first script and the batch of the others do. -/
theorem runRecords_cons_value_eq_ok_iff {world : World} {script : Path} {rest : List Path}
    {records : List Record} :
    (runRecords settings parser world (script :: rest)).value = .ok records ↔
      ∃ record others, (process settings parser world script).value = .ok record ∧
        (runRecords settings parser (process settings parser world script).world rest).value =
          .ok others ∧ record :: others = records := by
  cases hfirst : (process settings parser world script).value with
  | error stop => simp [runRecords_cons_of_error hfirst]
  | ok record =>
    rw [runRecords_cons_of_ok hfirst, Progress.followedBy]
    cases (runRecords settings parser (process settings parser world script).world rest).value <;>
      simp [Except.map]

/-- A batch that ends early is not changed by what would have come later. -/
theorem runRecords_append_of_error {world : World} {xs : List Path} {failure : Failure}
    (h : (runRecords settings parser world xs).value = .error failure) (ys : List Path) :
    runRecords settings parser world (xs ++ ys) = runRecords settings parser world xs := by
  induction xs generalizing world failure with
  | nil => simp [runRecords] at h
  | cons script rest ih =>
    rw [List.cons_append]
    cases hfirst : (process settings parser world script).value with
    | error stop => rw [runRecords_cons_of_error hfirst, runRecords_cons_of_error hfirst]
    | ok record =>
      cases hrest : (runRecords settings parser (process settings parser world script).world
          rest).value with
      | ok others =>
        rw [runRecords_cons_value_eq_ok_iff.mpr ⟨record, others, hfirst, hrest, rfl⟩] at h
        cases h
      | error stop => rw [runRecords_cons_of_ok hfirst, runRecords_cons_of_ok hfirst, ih hrest]

/-- A batch that comes through its first part goes on from the world that this part left. -/
theorem runRecords_append_of_ok {world : World} {xs : List Path} {records : List Record}
    (h : (runRecords settings parser world xs).value = .ok records) (ys : List Path) :
    runRecords settings parser world (xs ++ ys) =
      (runRecords settings parser world xs).followedBy records
        (runRecords settings parser (runRecords settings parser world xs).world ys) := by
  induction xs generalizing world records with
  | nil =>
    simp only [runRecords, Except.ok.injEq] at h
    subst h
    rcases hothers : runRecords settings parser world ys with ⟨value, left, attempts, notices⟩
    cases value <;> simp [runRecords, Progress.followedBy, Except.map, hothers]
  | cons script rest ih =>
    obtain ⟨record, others, hfirst, hrest, rfl⟩ := runRecords_cons_value_eq_ok_iff.mp h
    rw [List.cons_append, runRecords_cons_of_ok hfirst, runRecords_cons_of_ok hfirst, ih hrest,
      Progress.followedBy_followedBy]
    rfl

/-- A batch of one script is the processing of that script. -/
theorem runRecords_singleton (world : World) (script : Path) :
    runRecords settings parser world [script] =
      ⟨(process settings parser world script).value.map ([·]),
        (process settings parser world script).world,
        (process settings parser world script).attempts,
        (process settings parser world script).notices⟩ := by
  simp only [runRecords]
  cases (process settings parser world script).value <;> simp [Except.map]

/-- A batch that comes through leaves one record for each script. -/
theorem length_of_runRecords {world : World} {scripts : List Path} {records : List Record}
    (h : (runRecords settings parser world scripts).value = .ok records) :
    records.length = scripts.length := by
  induction scripts generalizing world records with
  | nil =>
    simp only [runRecords, Except.ok.injEq] at h
    subst h
    rfl
  | cons script rest ih =>
    obtain ⟨record, others, -, hrest, rfl⟩ := runRecords_cons_value_eq_ok_iff.mp h
    rw [List.length_cons, List.length_cons, ih hrest]

/-- The first scripts of a batch leave the first records. -/
theorem runRecords_take {world : World} {scripts : List Path} {records : List Record}
    (h : (runRecords settings parser world scripts).value = .ok records) (i : Nat) :
    (runRecords settings parser world (scripts.take i)).value = .ok (records.take i) := by
  rw [← List.take_append_drop i scripts] at h
  cases hfirst : (runRecords settings parser world (scripts.take i)).value with
  | error stop =>
    rw [runRecords_append_of_error hfirst, hfirst] at h
    cases h
  | ok firsts =>
    rw [runRecords_append_of_ok hfirst, Progress.followedBy] at h
    have hlength := length_of_runRecords hfirst
    cases hothers : (runRecords settings parser
        (runRecords settings parser world (scripts.take i)).world (scripts.drop i)).value with
    | error stop => simp [hothers, Except.map] at h
    | ok others =>
      simp only [hothers, Except.map, Except.ok.injEq] at h
      subst h
      rw [List.length_take] at hlength
      by_cases hi : i ≤ scripts.length
      · rw [List.take_left' (by omega)]
      · have hnone := length_of_runRecords hothers
        rw [List.length_drop] at hnone
        have hempty : others = [] := List.length_eq_zero_iff.mp (by omega)
        rw [hempty, List.append_nil, List.take_of_length_le (by omega)]

/-- Cutting a batch before and after one script: that script is processed in the world that the
scripts before it left, and it leaves the world that the next script finds. -/
theorem runRecords_take_succ {world : World} {scripts : List Path} {records : List Record}
    (h : (runRecords settings parser world scripts).value = .ok records) {i : Nat} {script : Path}
    {record : Record} (hscript : scripts[i]? = some script) (hrecord : records[i]? = some record) :
    let before := runRecords settings parser world (scripts.take i)
    let step := process settings parser before.world script
    step.value = .ok record ∧
      runRecords settings parser world (scripts.take (i + 1)) =
        ⟨.ok (records.take (i + 1)), step.world, before.attempts ++ step.attempts,
          before.notices ++ step.notices⟩ := by
  intro before step
  have hbefore : before.value = .ok (records.take i) := runRecords_take h i
  have hafter := runRecords_take h (i + 1)
  have hscripts : scripts.take (i + 1) = scripts.take i ++ [script] := by
    rw [List.take_add_one, hscript, Option.toList_some]
  have hrecords : records.take (i + 1) = records.take i ++ [record] := by
    rw [List.take_add_one, hrecord, Option.toList_some]
  have hcut : runRecords settings parser world (scripts.take (i + 1)) =
      ⟨step.value.map (records.take i ++ [·]), step.world, before.attempts ++ step.attempts,
        before.notices ++ step.notices⟩ := by
    rw [hscripts, runRecords_append_of_ok hbefore, runRecords_singleton, Progress.followedBy]
    cases step.value <;> rfl
  rw [hcut] at hafter ⊢
  cases hstep : step.value with
  | error stop => simp [hstep, Except.map] at hafter
  | ok found =>
    simp only [hstep, Except.map, Except.ok.injEq, hrecords, List.append_cancel_left_eq,
      List.cons.injEq, and_true] at hafter
    subst hafter
    exact ⟨rfl, by rw [Except.map, hrecords]⟩

/-- A batch leaves a reliable writer reliable. -/
theorem runRecords_reliable (settings : Settings) (parser : Parser) {world : World}
    (h : world.writer.Reliable) (scripts : List Path) :
    (runRecords settings parser world scripts).world.writer.Reliable := by
  induction scripts generalizing world with
  | nil => exact h
  | cons script rest ih =>
    have hfirst := process_reliable settings parser h script
    simp only [runRecords]
    cases (process settings parser world script).value with
    | error stop => exact hfirst
    | ok record => exact ih hfirst

/-- The scripts that the settings lead to. -/
def collect (settings : Settings) (fs : FileSystem) : Except Failure (List Path) :=
  Collect.scripts fs settings.scriptsDir (Collect.suffix settings.extension)

/-- Without scripts to collect there is no batch. -/
theorem collectAndRun_of_error {world : World} {failure : Failure}
    (h : collect settings world.fs = .error failure) :
    collectAndRun settings parser world = ⟨.error failure, world, [], []⟩ := by
  rw [collect] at h
  rw [collectAndRun, h]

/-- A collected batch is a batch of the scripts that were found. -/
theorem collectAndRun_of_ok {world : World} {scripts : List Path}
    (h : collect settings world.fs = .ok scripts) :
    collectAndRun settings parser world =
      { value := (runRecords settings parser world scripts).value.map Tally.ofRecords
        world := (runRecords settings parser world scripts).world
        attempts := (runRecords settings parser world scripts).attempts
        notices := .event (Collect.event settings.scriptsDir scripts.length) ::
          (runRecords settings parser world scripts).notices } := by
  rw [collect] at h
  rw [collectAndRun, h]
  rfl

end Fixtures.Batch
