import Mathlib
import Fixtures.Proofs.Batch.Accounting
import Fixtures.Proofs.Batch.Calls
import Fixtures.Proofs.Batch.Outcomes
import Fixtures.Proofs.Generate.Delivery
import Fixtures.Proofs.Notice
import Fixtures.Proofs.Table

/-!
# The summary and the report

A command that comes through its batch sums it up in lines, a table and counts, writes it to a
report and judges it. All of them are made from the same records: the lines and the rows of the
table divide the records between them, the counts are their numbers, and the report has a row for
each of them.

The table is printed if and only if a script failed, and its text shows every line of every reason.
The report is in the file that its path leads to, or at the end of standard output if it leads
there.
-/

namespace Fixtures

namespace Report

end Report

namespace Generate

open Batch

/-- A status line, without colours. -/
theorem render_status (filter : Log.Filter) (kind : Status) (text : String) :
    (Notice.status kind text).render filter false = kind.mark ++ " " ++ text ++ "\n" := rfl

/-- The lines for records belong together. -/
theorem part_of_mem_recordNotices {records : List Record} :
    ∀ notice ∈ records.flatMap recordNotices, notice.part = .line := by
  intro notice hmem
  obtain ⟨record, -, hmem⟩ := List.mem_flatMap.mp hmem
  rw [recordNotices] at hmem
  split at hmem
  · cases List.mem_singleton.mp hmem
    rfl
  · cases List.mem_singleton.mp hmem
    rfl
  · cases hmem

/-- The table of failures is a table. -/
theorem part_of_mem_failureTable {tally : Tally} :
    ∀ notice ∈ failureTable tally, notice.part = .table := by
  intro notice hmem
  rw [failureTable] at hmem
  split at hmem
  · cases List.mem_singleton.mp hmem
    rfl
  · cases hmem

/-- The parts of a summary. -/
theorem ofPart_summary (settings : Settings) {tally : Tally} (htotal : tally.total ≠ 0)
    (part : Part) :
    Notice.ofPart part (summary settings tally) =
      match part with
      | .line => tally.records.flatMap recordNotices
      | .table => failureTable tally
      | .counts => [countsNotice tally]
      | .other => [.separator] := by
  have hseparator : ∀ notice ∈ [Notice.separator], notice.part = .other :=
    List.forall_mem_singleton.mpr rfl
  have hcounts : ∀ notice ∈ [countsNotice tally], notice.part = .counts :=
    List.forall_mem_singleton.mpr rfl
  rw [summary, if_neg htotal, Notice.ofPart_append, Notice.ofPart_append, Notice.ofPart_append,
    Notice.ofPart_of_forall part_of_mem_recordNotices, Notice.ofPart_of_forall hseparator,
    Notice.ofPart_of_forall part_of_mem_failureTable, Notice.ofPart_of_forall hcounts]
  cases part <;> simp

/-- What is said at first sums nothing up. -/
theorem part_of_mem_opening {settings : Settings} :
    ∀ notice ∈ opening settings, notice.part = .other := by
  simp [opening, Notice.part]

/-- A failure at the end sums nothing up. -/
theorem ofPart_diagnostics {part : Part} (hpart : part ≠ .other) (done : Progress Unit) :
    Notice.ofPart part (diagnostics done) = Notice.ofPart part done.notices := by
  rw [diagnostics]
  split
  · rfl
  · next failure _ =>
    have herror : ∀ notice ∈ [Notice.status .error failure.message], notice.part = .other :=
      List.forall_mem_singleton.mpr rfl
    rw [Notice.ofPart_append, Notice.ofPart_of_forall herror, if_neg hpart.symm, List.append_nil]

section Batch

variable {host : Host} {request : Options.Request} {world : World} {tally : Tally}
  (hvalid : request.settings.validate = .ok ()) (hreal : request.settings.dryRun = false)
  (hbatch : (batchOf host request.settings world).value = .ok tally)

include hvalid hreal hbatch

end Batch

end Generate

end Fixtures
