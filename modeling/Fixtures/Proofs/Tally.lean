import Fixtures.Tally

/-!
# What a tally keeps of its records

The tally of a list of records holds exactly those records, counts them by outcome and lists the
failed ones among them in order. Each record has one outcome, so the three counts add up to the
number of records. The tally of one list of records after another is the sum of their tallies.
-/

namespace Fixtures

namespace Record

/-- Whether a record is one of a success. -/
def succeeded (record : Record) : Bool := record.outcome = .success

/-- Whether a record is one of a script that was left out. -/
def skipped (record : Record) : Bool := record.outcome = .skipped

/-- Whether a record is one of a failure. -/
def failed (record : Record) : Bool :=
  match record.outcome with
  | .failed _ => true
  | _ => false

/-- The shown script and the reason, if a record is one of a failure. -/
def failure? (record : Record) : Option (String × String) :=
  match record.outcome with
  | .failed reason => some (Path.text record.script, reason)
  | _ => none

/-- A record is one of a failure exactly if it has a reason to show. -/
theorem isSome_failure? (record : Record) : record.failure?.isSome = record.failed := by
  rw [failure?, failed]
  cases record.outcome <;> rfl

/-- Each failed record shows one reason. -/
theorem length_filterMap_failure? (records : List Record) :
    (records.filterMap failure?).length = records.countP failed := by
  simp only [List.length_filterMap_eq_countP, isSome_failure?]

/-- Every record is of one of the three kinds. -/
theorem countP_kinds (records : List Record) :
    records.countP succeeded + records.countP skipped + records.countP failed =
      records.length := by
  induction records with
  | nil => rfl
  | cons record rest ih =>
    simp only [List.countP_cons, List.length_cons]
    cases houtcome : record.outcome <;> simp [succeeded, skipped, failed, houtcome] <;> omega

end Record

namespace Tally

/-- Adding records counts them by outcome and puts them behind the others. -/
theorem foldl_add (tally : Tally) (records : List Record) :
    records.foldl add tally =
      { success := tally.success + records.countP Record.succeeded
        skipped := tally.skipped + records.countP Record.skipped
        failed := tally.failed + records.countP Record.failed
        failures := tally.failures ++ records.filterMap Record.failure?
        records := tally.records ++ records } := by
  induction records generalizing tally with
  | nil => simp
  | cons record rest ih =>
    rw [List.foldl_cons, ih]
    cases houtcome : record.outcome <;>
      simp [add, houtcome, Record.succeeded, Record.skipped, Record.failed, Record.failure?,
        Nat.add_assoc, Nat.add_comm 1]

/-- The tally of records. -/
theorem ofRecords_eq (records : List Record) :
    ofRecords records =
      { success := records.countP Record.succeeded
        skipped := records.countP Record.skipped
        failed := records.countP Record.failed
        failures := records.filterMap Record.failure?
        records := records } := by
  rw [ofRecords, foldl_add]
  simp [empty]

/-- The records of a tally are those it was made from. -/
@[simp] theorem records_ofRecords (records : List Record) :
    (ofRecords records).records = records := by rw [ofRecords_eq]

/-- The count of failures is the number of failed records. -/
theorem failed_ofRecords (records : List Record) :
    (ofRecords records).failed = records.countP Record.failed := by rw [ofRecords_eq]

/-- The count of successes is the number of outcomes that are one. -/
theorem success_ofRecords (records : List Record) :
    (ofRecords records).success = (records.map Record.outcome).count .success := by
  rw [ofRecords_eq, List.count_eq_countP, List.countP_map]
  rfl

/-- The total is the number of records. -/
theorem total_ofRecords (records : List Record) : (ofRecords records).total = records.length := by
  rw [ofRecords_eq, total, Record.countP_kinds]

/-- A tally has failures exactly if one of its records is a failed one. -/
theorem hasFailures_ofRecords_iff (records : List Record) :
    (ofRecords records).hasFailures = true ↔ ∃ record ∈ records, record.failed = true := by
  rw [hasFailures, decide_eq_true_iff, failed_ofRecords, List.countP_pos_iff]

/-- A tally has failures exactly if it lists some. -/
theorem hasFailures_ofRecords_iff_listed (records : List Record) :
    (ofRecords records).hasFailures = true ↔ (ofRecords records).failures ≠ [] := by
  rw [hasFailures, decide_eq_true_iff, ofRecords_eq, ← Record.length_filterMap_failure?]
  exact List.length_pos_iff

/-- The tally of one list of records after another is the sum of their tallies. -/
theorem ofRecords_append (records others : List Record) :
    ofRecords (records ++ others) = (ofRecords records).append (ofRecords others) := by
  simp only [ofRecords_eq, append, List.countP_append, List.filterMap_append]

/-- However many of some records have been added to the empty tally, it sums these up, and records
that are added after others add to it what they come to by themselves. -/
theorem sums_up_each_prefix (records others : List Record) :
    (∀ n, let added := records.take n
      let tally := added.foldl add empty
      tally.records = added ∧
      tally.success = added.countP Record.succeeded ∧
      tally.skipped = added.countP Record.skipped ∧
      tally.failed = added.countP Record.failed ∧
      tally.failures = added.filterMap Record.failure? ∧
      tally.total = tally.records.length ∧
      (tally.hasFailures = true ↔ tally.failures ≠ [])) ∧
    (records ++ others).foldl add empty =
      (records.foldl add empty).append (others.foldl add empty) := by
  refine ⟨fun n => ?_, ofRecords_append records others⟩
  intro added tally
  have hrecords : tally.records = added := records_ofRecords added
  refine ⟨hrecords, ?_, ?_, ?_, ?_, ?_, hasFailures_ofRecords_iff_listed added⟩
  · exact congrArg success (ofRecords_eq added)
  · exact congrArg skipped (ofRecords_eq added)
  · exact failed_ofRecords added
  · exact congrArg failures (ofRecords_eq added)
  · rw [hrecords]
    exact total_ofRecords added

end Tally

end Fixtures
