import Fixtures.Batch
import Fixtures.Proofs.Notice
import Fixtures.Proofs.Settings

/-!
# What becomes of one script

A script takes one of four courses: its parse tree is current, its parser is not started, the echo
of what the parser wrote is refused, or the invocation is judged. The file system, the parser and
the writer decide the course; the policy only decides what a failure is worth. Every statement about
a batch is read off the four equations proved here.
-/

namespace Fixtures

namespace Writer

/-- A writer that refuses nothing. -/
def Reliable (writer : Writer) : Prop := ∀ bytes, (writer.write bytes).1 = true

/-- The writers that refuse nothing are those without a limit whose flushes work. -/
theorem reliable_iff (writer : Writer) :
    writer.Reliable ↔ writer.room = none ∧ writer.flushFails = false := by
  constructor
  · intro h
    have hflush : writer.flushFails = false := by
      have hempty := h []
      simp only [write, Bool.and_eq_true, Bool.not_eq_true'] at hempty
      exact hempty.2
    refine ⟨?_, hflush⟩
    cases hroom : writer.room with
    | none => rfl
    | some room =>
      -- One byte more than there is room for is refused.
      have hlong := h (List.replicate (room + 1) 0)
      simp [write, taken, hroom] at hlong
  · rintro ⟨hroom, hflush⟩ bytes
    simp [write, taken, hroom, hflush]

/-- A reliable writer is still reliable after a write. -/
theorem Reliable.after_write {writer : Writer} (h : writer.Reliable) (bytes : Bytes) :
    (writer.write bytes).2.Reliable := by
  obtain ⟨hroom, hflush⟩ := (reliable_iff writer).mp h
  exact (reliable_iff _).mpr ⟨by simp [write, hroom], by simpa [write] using hflush⟩

end Writer

namespace Batch

/-- Whether a script is left out because its parse tree is current. -/
def skips (settings : Settings) (fs : FileSystem) (script : Path) : Bool :=
  settings.skipUpToDate && fs.isUpToDate script (Artifact.path script settings.outDir)

/-- Why a call failed, if it did: the failure that the parser answered with, or the one that an
unsuccessful invocation stands for. -/
def Attempt.failure? (call : Attempt) : Option Failure :=
  match call.result with
  | .error failure => some failure
  | .ok invocation => if invocation.succeeded then none else some invocation.failure

/-- Whether a call failed. -/
def Attempt.failed (call : Attempt) : Bool := call.failure?.isSome

/-- What the parser remarks on its answer, as notices. -/
def remarkNotices (parser : Parser) (script outDir : Path) (answer : Except Failure Invocation) :
    List Notice :=
  (parser.remarks script outDir answer).map fun remark => .event remark.event

/-- The courses that a script can take. The policy has no part in them. -/
inductive Course (settings : Settings) (parser : Parser) (world : World) (script : Path) :
    Prop where
  /-- The parse tree is current and such scripts are left out. -/
  | current (hskip : skips settings world.fs script = true)
  /-- The parser answers with a failure of its own. -/
  | notStarted {failure : Failure} {after : FileSystem}
      (hdue : skips settings world.fs script = false)
      (hparse : parser.parse world.fs script settings.outDir = (.error failure, after))
  /-- The parser ran and the echo of its output is refused. -/
  | refused {invocation : Invocation} {after : FileSystem}
      (hdue : skips settings world.fs script = false)
      (hparse : parser.parse world.fs script settings.outDir = (.ok invocation, after))
      (hecho : (echo settings.verbose world.writer invocation).1 = false)
  /-- The parser ran and its invocation is judged. -/
  | finished {invocation : Invocation} {after : FileSystem}
      (hdue : skips settings world.fs script = false)
      (hparse : parser.parse world.fs script settings.outDir = (.ok invocation, after))
      (hecho : (echo settings.verbose world.writer invocation).1 = true)

/-- Every script takes one of the courses. -/
theorem course (settings : Settings) (parser : Parser) (world : World) (script : Path) :
    Course settings parser world script := by
  cases hskip : skips settings world.fs script with
  | true => exact .current hskip
  | false =>
    rcases hparse : parser.parse world.fs script settings.outDir with ⟨answer, after⟩
    cases answer with
    | error failure => exact .notStarted hskip hparse
    | ok invocation =>
      cases hecho : (echo settings.verbose world.writer invocation).1 with
      | false => exact .refused hskip hparse hecho
      | true => exact .finished hskip hparse hecho

section Equations

variable (settings : Settings) {parser : Parser} {world : World} {script : Path}
  {failure : Failure} {invocation : Invocation} {after : FileSystem}

/-- A current parse tree: nothing is called and nothing changes. -/
theorem process_current (hskip : skips settings world.fs script = true) :
    process settings parser world script =
      { value := .ok ⟨script, Artifact.path script settings.outDir, none, .skipped⟩
        world := world
        attempts := []
        notices := [event .debug "parse tree up to date" [("script", Path.text script)]] } := by
  rw [skips] at hskip
  simp only [process, hskip, ite_true]

/-- A parser that was not started: its own failure is judged. -/
theorem process_notStarted (hdue : skips settings world.fs script = false)
    (hparse : parser.parse world.fs script settings.outDir = (.error failure, after)) :
    process settings parser world script =
      { value := (verdict settings.onFailure script failure).1.map fun outcome =>
          ⟨script, Artifact.path script settings.outDir, none, outcome⟩
        world := ⟨after, world.writer⟩
        attempts := [⟨script, settings.outDir, .error failure⟩]
        notices := remarkNotices parser script settings.outDir (.error failure) ++
          (verdict settings.onFailure script failure).2 } := by
  rw [skips] at hdue
  simp only [process, hdue, Bool.false_eq_true, ite_false, attempt, hparse, remarkNotices]

/-- A refused echo: the batch ends, whatever the invocation came to. -/
theorem process_refused (hdue : skips settings world.fs script = false)
    (hparse : parser.parse world.fs script settings.outDir = (.ok invocation, after))
    (hecho : (echo settings.verbose world.writer invocation).1 = false) :
    process settings parser world script =
      { value := .error .outputRefused
        world := ⟨after, (echo settings.verbose world.writer invocation).2.1⟩
        attempts := [⟨script, settings.outDir, .ok invocation⟩]
        notices := remarkNotices parser script settings.outDir (.ok invocation) ++
          (echo settings.verbose world.writer invocation).2.2 } := by
  rw [skips] at hdue
  simp only [process, hdue, Bool.false_eq_true, ite_false, attempt, hparse, hecho, remarkNotices,
    Except.map, List.append_nil]

/-- An echoed invocation: it is judged. -/
theorem process_finished (hdue : skips settings world.fs script = false)
    (hparse : parser.parse world.fs script settings.outDir = (.ok invocation, after))
    (hecho : (echo settings.verbose world.writer invocation).1 = true) :
    process settings parser world script =
      { value := (judge settings.onFailure after script (Artifact.path script settings.outDir)
            invocation).1.map fun outcome =>
          ⟨script, Artifact.path script settings.outDir, invocation.exitCode, outcome⟩
        world := ⟨after, (echo settings.verbose world.writer invocation).2.1⟩
        attempts := [⟨script, settings.outDir, .ok invocation⟩]
        notices := remarkNotices parser script settings.outDir (.ok invocation) ++
          (echo settings.verbose world.writer invocation).2.2 ++
          (judge settings.onFailure after script (Artifact.path script settings.outDir)
            invocation).2 } := by
  rw [skips] at hdue
  simp only [process, hdue, Bool.false_eq_true, ite_false, attempt, hparse, hecho, ite_true,
    remarkNotices]

end Equations

/-- A policy that goes on turns a failure into a failed outcome with its message. -/
theorem verdict_of_ne_abort {policy : Policy} (h : policy ≠ .abort) (script : Path)
    (failure : Failure) : (verdict policy script failure).1 = .ok (.failed failure.message) := by
  cases policy with
  | abort => exact absurd rfl h
  | warn => rfl
  | ignore => rfl

/-- An event of a batch that is less important than a warning is not shown by default. -/
theorem event_not_shown {level : Log.Level} (h : 2 < level.rank) (message : String)
    (fields : List (String × String)) :
    (event level message fields).shown Log.Filter.standard = false :=
  Log.Filter.standard_not_shows h

/-- The remarks of a parser are events. -/
theorem remarkNotices_events {parser : Parser} {script outDir : Path}
    {answer : Except Failure Invocation} {notice : Notice}
    (h : notice ∈ remarkNotices parser script outDir answer) : ∃ event, notice = .event event := by
  obtain ⟨remark, -, rfl⟩ := List.mem_map.mp h
  exact ⟨_, rfl⟩

/-- An echo notes at most an event. -/
theorem echo_events {verbose : Bool} {writer : Writer} {invocation : Invocation} {notice : Notice}
    (h : notice ∈ (echo verbose writer invocation).2.2) : ∃ event, notice = .event event := by
  cases verbose with
  | true => cases h
  | false => exact ⟨_, List.mem_singleton.mp h⟩

/-- A failure that does not end the batch is recorded with its message. -/
theorem eq_failed_of_verdict {policy : Policy} {script : Path} {failure : Failure}
    {outcome : Outcome} (h : (verdict policy script failure).1 = .ok outcome) :
    outcome = .failed failure.message := by
  cases policy with
  | abort => cases h
  | warn =>
    cases h
    rfl
  | ignore =>
    cases h
    rfl

/-- An invocation that does not end the batch is recorded as a success or with its failure. -/
theorem eq_of_judge {policy : Policy} {fs : FileSystem} {script artifact : Path}
    {invocation : Invocation} {outcome : Outcome}
    (h : (judge policy fs script artifact invocation).1 = .ok outcome) :
    outcome = if invocation.succeeded then .success else .failed invocation.failure.message := by
  rw [judge] at h
  cases hsucceeded : invocation.succeeded with
  | true =>
    simp only [hsucceeded, ite_true, Except.ok.injEq] at h
    exact h.symm
  | false =>
    simp only [hsucceeded, Bool.false_eq_true, ite_false] at h
    exact eq_failed_of_verdict h

/-- A reliable writer takes every echo and stays reliable. -/
theorem echo_of_reliable {writer : Writer} (h : writer.Reliable) (verbose : Bool)
    (invocation : Invocation) :
    (echo verbose writer invocation).1 = true ∧ (echo verbose writer invocation).2.1.Reliable := by
  cases verbose with
  | false => exact ⟨rfl, h⟩
  | true => exact ⟨h invocation.stdout, h.after_write invocation.stdout⟩

/-- Processing a script leaves a reliable writer reliable. -/
theorem process_reliable (settings : Settings) (parser : Parser) {world : World}
    (h : world.writer.Reliable) (script : Path) :
    (process settings parser world script).world.writer.Reliable := by
  cases course settings parser world script with
  | current hskip => rwa [process_current settings hskip]
  | notStarted hdue hparse => rwa [process_notStarted settings hdue hparse]
  | @refused invocation _ hdue hparse hecho =>
    rw [process_refused settings hdue hparse hecho]
    exact (echo_of_reliable h _ invocation).2
  | @finished invocation _ hdue hparse hecho =>
    rw [process_finished settings hdue hparse hecho]
    exact (echo_of_reliable h _ invocation).2

end Batch

end Fixtures
