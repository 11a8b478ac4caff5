import Fixtures.Path

/-!
# The tally of a batch

A batch leaves one record for each script it processed. The tally counts them by outcome and lists
the failures; it grows by one record at a time, and tallies of two batches add up.
-/

namespace Fixtures

/-- What became of a script. -/
inductive Outcome where
  /-- The parser exited with zero. -/
  | success
  /-- The parse tree was current, so the parser did not run. -/
  | skipped
  /-- The invocation failed, for the reason given. -/
  | failed (reason : String)
  deriving DecidableEq, Repr

/-- What is kept of one processed script. -/
structure Record where
  /-- The script. -/
  script : Path
  /-- Where its parse tree belongs. -/
  artifact : Path
  /-- The exit code of its parser, if it ran and left one. -/
  exitCode : Option Int
  /-- What became of it. -/
  outcome : Outcome
  deriving DecidableEq, Repr

/-- Counts by outcome, failures with their scripts, and all records in order. -/
structure Tally where
  /-- The number of successes. -/
  success : Nat
  /-- The number of skipped scripts. -/
  skipped : Nat
  /-- The number of failures. -/
  failed : Nat
  /-- The shown script and the reason of each failure. -/
  failures : List (String × String)
  /-- The records. -/
  records : List Record
  deriving DecidableEq, Repr

namespace Tally

/-- The tally of no scripts. -/
def empty : Tally := ⟨0, 0, 0, [], []⟩

/-- The tally with one more record. -/
def add (tally : Tally) (record : Record) : Tally :=
  match record.outcome with
  | .success => { tally with
      success := tally.success + 1
      records := tally.records ++ [record] }
  | .skipped => { tally with
      skipped := tally.skipped + 1
      records := tally.records ++ [record] }
  | .failed reason => { tally with
      failed := tally.failed + 1
      failures := tally.failures ++ [(Path.text record.script, reason)]
      records := tally.records ++ [record] }

/-- The tally of a list of records. -/
def ofRecords (records : List Record) : Tally := records.foldl add empty

/-- The tally of one batch after another. -/
def append (first second : Tally) : Tally where
  success := first.success + second.success
  skipped := first.skipped + second.skipped
  failed := first.failed + second.failed
  failures := first.failures ++ second.failures
  records := first.records ++ second.records

/-- The number of processed scripts. -/
def total (tally : Tally) : Nat := tally.success + tally.skipped + tally.failed

/-- Whether some script failed. -/
def hasFailures (tally : Tally) : Bool := 0 < tally.failed

end Tally

end Fixtures
