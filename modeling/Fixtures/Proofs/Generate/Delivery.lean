import Fixtures.Proofs.Batch.Echo
import Fixtures.Proofs.Computation
import Fixtures.Proofs.Generate.Stages
import Fixtures.Proofs.Report.RoundTrip

/-!
# What becomes of a report

A report is written to the place that its path leads to: a regular file, a device, standard error or
standard output. It is missing there only if the path cannot be opened, or if not all of its bytes
are taken; the command then ends with a failure of that stage and changes no file.
-/

namespace Fixtures

/-- A reliable writer takes all bytes. -/
theorem Writer.Reliable.taken {writer : Writer} (h : writer.Reliable) (n : Nat) :
    writer.taken n = n := by
  rw [Writer.taken, ((reliable_iff writer).mp h).1]
  rfl

/-- A report is written exactly if all of its bytes are taken. -/
theorem Report.delivery_eq_ok_iff {path : Path} {size taken : Nat} :
    Report.delivery path size taken = .ok () ↔ size ≤ taken := by
  rw [Report.delivery]
  split
  · next h => exact iff_of_true rfl h
  · next h => split <;> simp [h]

namespace Generate

open Batch

/-- Bytes of a report that are not taken are missed while writing or at the last flush. -/
theorem owns_of_delivery {path : Path} {size taken : Nat} {failure : Failure}
    (h : Report.delivery path size taken = .error failure) :
    Stage.report.owns failure = true := by
  rw [Report.delivery] at h
  split at h
  · cases h
  · split at h
    · cases h
      rfl
    · cases h
      rfl

/-- A report is refused, or its last bytes are not written. -/
theorem owns_of_save {fs : FileSystem} {path : Path} {records : List Record} {failure : Failure}
    (h : Report.save fs path records = .error failure) : Stage.report.owns failure = true := by
  unfold Report.save at h
  simp only at h
  split at h
  · cases h
    rfl
  · cases h
  · cases h
  · cases h
  · exact owns_of_delivery (map_eq_error_iff.mp h)

/-- What can become of a report that is written to a path. -/
inductive Saved (world : World) (path : Path) (records : List Record) : Progress Unit → Prop
  /-- It goes to a file or a device. -/
  | filed {fs : FileSystem} (hfile : ∀ which, world.fs.sink path ≠ .ok (.outlet which))
      (hsave : Report.save world.fs path records = .ok fs) :
    Saved world path records ⟨.ok (), ⟨fs, world.writer⟩, [], [savedNotice path]⟩
  /-- The path is refused, or the device is. -/
  | refused {failure : Failure} (hsave : Report.save world.fs path records = .error failure) :
    Saved world path records ⟨.error failure, world, [], []⟩
  /-- It goes to standard error. -/
  | shown (hsink : world.fs.sink path = .ok (.outlet .error)) :
    Saved world path records
      ⟨.ok (), world, [], [.verbatim (Report.render records), savedNotice path]⟩
  /-- It goes to standard output, which takes all of it. -/
  | printed (hsink : world.fs.sink path = .ok (.outlet .output))
      (htaken : Report.delivery path (Utf8.encode (Report.render records)).length
        (world.writer.taken (Utf8.encode (Report.render records)).length) = .ok ()) :
    Saved world path records
      ⟨.ok (), ⟨world.fs, (world.writer.write (Utf8.encode (Report.render records))).2⟩, [],
        [savedNotice path]⟩
  /-- It goes to standard output, which does not take all of it. -/
  | cut {failure : Failure} (hsink : world.fs.sink path = .ok (.outlet .output))
      (htaken : Report.delivery path (Utf8.encode (Report.render records)).length
        (world.writer.taken (Utf8.encode (Report.render records)).length) = .error failure) :
    Saved world path records
      ⟨.error failure, ⟨world.fs, (world.writer.write (Utf8.encode (Report.render records))).2⟩,
        [], []⟩

/-- Nothing else can become of a report. -/
theorem writeReport_saved (world : World) (path : Path) (records : List Record) :
    Saved world path records (writeReport world path records) := by
  rw [writeReport]
  split
  · next hsink =>
    rw [printReport]
    cases htaken : Report.delivery path (Utf8.encode (Report.render records)).length
        (world.writer.taken (Utf8.encode (Report.render records)).length) with
    | error failure => exact .cut hsink htaken
    | ok _ => exact .printed hsink htaken
  · next hsink => exact .shown hsink
  · next houtput herror =>
    cases hsave : Report.save world.fs path records with
    | error failure => exact .refused hsave
    | ok fs =>
      refine .filed (fun which hsink => ?_) hsave
      cases which with
      | output => exact houtput hsink
      | error => exact herror hsink

/-- A report that goes to standard output where nothing is refused. -/
theorem writeReport_of_output {world : World} (hwriter : world.writer.Reliable) {path : Path}
    (h : world.fs.sink path = .ok (.outlet .output)) (records : List Record) :
    writeReport world path records =
      ⟨.ok (), ⟨world.fs, world.writer.storing (Utf8.encode (Report.render records))⟩, [],
        [savedNotice path]⟩ := by
  have htaken : Report.delivery path (Utf8.encode (Report.render records)).length
      (Utf8.encode (Report.render records)).length = .ok () :=
    Report.delivery_eq_ok_iff.mpr (Nat.le_refl _)
  simp only [writeReport, h, printReport, hwriter.taken, hwriter.write, htaken]
  rfl

/-- A report that is wanted and not written. -/
theorem owns_of_saveReport {world : World} {report : Option Path} {tally : Tally}
    {failure : Failure} (h : (saveReport world report tally).value = .error failure) :
    Stage.report.owns failure = true := by
  cases report with
  | none => cases h
  | some path =>
    rw [saveReport] at h
    have hsaved := writeReport_saved world path tally.records
    generalize writeReport world path tally.records = saved at h hsaved
    cases hsaved with
    | filed _ _ => cases h
    | refused hsave =>
      cases h
      exact owns_of_save hsave
    | shown _ => cases h
    | printed _ _ => cases h
    | cut _ htaken =>
      cases h
      exact owns_of_delivery htaken

/-- What is said of a report: its text, if that goes to standard error, and that it was written. -/
theorem mem_saveReport {world : World} {report : Option Path} {tally : Tally} {notice : Notice}
    (h : notice ∈ (saveReport world report tally).notices) :
    notice = .verbatim (Report.render tally.records) ∨ ∃ path, notice = savedNotice path := by
  cases report with
  | none => cases h
  | some path =>
    rw [saveReport] at h
    have hsaved := writeReport_saved world path tally.records
    generalize writeReport world path tally.records = saved at h hsaved
    cases hsaved with
    | filed _ _ => exact .inr ⟨path, List.mem_singleton.mp h⟩
    | refused _ => cases h
    | shown _ =>
      rcases List.mem_cons.mp h with rfl | h
      · exact .inl rfl
      · exact .inr ⟨path, List.mem_singleton.mp h⟩
    | printed _ _ => exact .inr ⟨path, List.mem_singleton.mp h⟩
    | cut _ _ => cases h

/-- The place of a report after it was written there: a regular file holds it and nothing else,
standard output ends with it, standard error has it in one piece, and a device that refuses bytes
was not given any. -/
def Delivered (world : World) (text : String) (done : Progress Unit) : FileSystem.Sink → Prop
  | .file location => (done.world.fs.node? location).map Node.content =
      some (.file (Utf8.encode text))
  | .outlet .output => done.world.writer.stored = world.writer.stored ++ Utf8.encode text
  | .outlet .error => .verbatim text ∈ done.notices
  | .refuse => Utf8.encode text = []
  | .swallow => True

/-- A report has come to its place whatever else is called and said. -/
theorem Delivered.of_said {world : World} {text : String} {done more : Progress Unit}
    {sink : FileSystem.Sink} (h : Delivered world text done sink) (hworld : more.world = done.world)
    (hsaid : ∀ notice ∈ done.notices, notice ∈ more.notices) : Delivered world text more sink := by
  cases sink with
  | file location =>
    rw [Delivered, hworld]
    exact h
  | swallow => exact h
  | refuse => exact h
  | outlet which =>
    cases which with
    | output =>
      rw [Delivered, hworld]
      exact h
    | error => exact hsaid _ h

/-- What a writer takes whole is stored behind what it has stored. -/
theorem stored_of_delivery {writer : Writer} {path : Path} {data : Bytes}
    (h : Report.delivery path data.length (writer.taken data.length) = .ok ()) :
    (writer.write data).2.stored = writer.stored ++ data := by
  have htaken := Report.delivery_eq_ok_iff.mp h
  rw [Writer.write, List.take_of_length_le htaken]

/-- A report that was saved to a file or a device has come there. -/
theorem delivered_of_save {world : World} {path : Path} {records : List Record} {fs : FileSystem}
    (hfile : ∀ which, world.fs.sink path ≠ .ok (.outlet which))
    (hsave : Report.save world.fs path records = .ok fs) (notices : List Notice) :
    ∃ sink, world.fs.sink path = .ok sink ∧ Delivered world (Report.render records)
      ⟨.ok (), ⟨fs, world.writer⟩, [], notices⟩ sink := by
  cases hsink : world.fs.sink path with
  | error reason => simp [Report.save, hsink] at hsave
  | ok sink =>
    refine ⟨sink, rfl, ?_⟩
    cases sink with
    | file location => exact Report.content_of_save hsink hsave
    | swallow => exact trivial
    | refuse =>
      simp only [Report.save, hsink] at hsave
      obtain ⟨_, hdelivery, -⟩ := map_eq_ok_iff.mp hsave
      exact List.length_eq_zero_iff.mp (Nat.le_zero.mp (Report.delivery_eq_ok_iff.mp hdelivery))
    | outlet which => exact absurd hsink (hfile which)

/-- A report that was written has come to the place that its path leads to. -/
theorem delivered_of_writeReport {world : World} {path : Path} {records : List Record}
    (h : (writeReport world path records).value = .ok ()) :
    ∃ sink, world.fs.sink path = .ok sink ∧
      Delivered world (Report.render records) (writeReport world path records) sink := by
  have hsaved := writeReport_saved world path records
  generalize writeReport world path records = saved at h hsaved
  cases hsaved with
  | filed hfile hsave => exact delivered_of_save hfile hsave _
  | refused _ => cases h
  | shown hsink => exact ⟨_, hsink, List.mem_cons_self⟩
  | printed hsink htaken => exact ⟨_, hsink, stored_of_delivery htaken⟩
  | cut _ _ => cases h

end Generate

end Fixtures
