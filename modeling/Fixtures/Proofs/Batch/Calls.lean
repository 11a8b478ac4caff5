import Fixtures.Proofs.Batch.Run
import Fixtures.Proofs.Computation

/-!
# The calls of a batch

A script is called at most once, and only if it is not left out. So the called scripts are some of
the given ones in their order, and all of them in a batch that comes through and leaves nothing out.
With a parser that leaves the files as they are, they are those that were not left out at first.
Each call asks the parser for the script and the output directory of the settings, and a parser that
answers these calls alike makes the same batch. Each record names the script and its parse tree.
-/

namespace Fixtures.Batch

variable {settings : Settings} {parser : Parser}

/-- The calls for one script: none if it is left out, and otherwise one with the parser's answer. -/
theorem process_attempts (settings : Settings) (parser : Parser) (world : World) (script : Path) :
    (process settings parser world script).attempts =
      if skips settings world.fs script then []
      else [⟨script, settings.outDir, (parser.parse world.fs script settings.outDir).1⟩] := by
  cases course settings parser world script with
  | current hskip => rw [process_current settings hskip, hskip, if_pos rfl]
  | notStarted hdue hparse =>
    rw [process_notStarted settings hdue hparse, hdue, hparse, if_neg Bool.false_ne_true]
  | refused hdue hparse hecho =>
    rw [process_refused settings hdue hparse hecho, hdue, hparse, if_neg Bool.false_ne_true]
  | finished hdue hparse hecho =>
    rw [process_finished settings hdue hparse hecho, hdue, hparse, if_neg Bool.false_ne_true]

/-- The called scripts are some of the given ones, in their order. -/
theorem runRecords_attempts_sublist (settings : Settings) (parser : Parser) (world : World)
    (scripts : List Path) :
    ((runRecords settings parser world scripts).attempts.map Attempt.script).Sublist scripts := by
  induction scripts generalizing world with
  | nil => exact List.Sublist.refl []
  | cons script rest ih =>
    have hstep : ((process settings parser world script).attempts.map Attempt.script).Sublist
        [script] := by
      rw [process_attempts]
      split
      · exact List.nil_sublist [script]
      · exact List.Sublist.refl [script]
    cases hfirst : (process settings parser world script).value with
    | error stop =>
      rw [runRecords_cons_of_error hfirst]
      exact hstep.trans ((List.nil_sublist rest).cons_cons script)
    | ok record =>
      rw [runRecords_cons_of_ok hfirst, Progress.followedBy, List.map_append]
      exact hstep.append (ih _)

/-- A batch that comes through and leaves nothing out calls every script. -/
theorem runRecords_attempts_of_ok (hskip : settings.skipUpToDate = false) {world : World}
    {scripts : List Path} {records : List Record}
    (h : (runRecords settings parser world scripts).value = .ok records) :
    (runRecords settings parser world scripts).attempts.map Attempt.script = scripts := by
  induction scripts generalizing world records with
  | nil => rfl
  | cons script rest ih =>
    obtain ⟨record, others, hfirst, hrest, rfl⟩ := runRecords_cons_value_eq_ok_iff.mp h
    have hdue : skips settings world.fs script = false := by rw [skips, hskip, Bool.false_and]
    have hstep : (process settings parser world script).attempts.map Attempt.script = [script] := by
      rw [process_attempts, hdue]
      rfl
    rw [runRecords_cons_of_ok hfirst, Progress.followedBy, List.map_append, hstep, ih hrest,
      List.singleton_append]

/-- Whether a parser leaves the files as they are. -/
def Still (parser : Parser) : Prop :=
  ∀ fs script outDir, (parser.parse fs script outDir).2 = fs

/-- With a parser that leaves the files as they are, a script leaves them as they are. -/
theorem process_fs_of_still (h : Still parser) (settings : Settings) (world : World)
    (script : Path) : (process settings parser world script).world.fs = world.fs := by
  have hafter := h world.fs script settings.outDir
  cases course settings parser world script with
  | current hskip => rw [process_current settings hskip]
  | notStarted hdue hparse =>
    rw [process_notStarted settings hdue hparse]
    rwa [hparse] at hafter
  | refused hdue hparse hecho =>
    rw [process_refused settings hdue hparse hecho]
    rwa [hparse] at hafter
  | finished hdue hparse hecho =>
    rw [process_finished settings hdue hparse hecho]
    rwa [hparse] at hafter

/-- With such a parser, a batch that comes through calls the scripts that were not to be left out at
first. -/
theorem runRecords_attempts_of_still (h : Still parser) {world : World} {scripts : List Path}
    {records : List Record} (hok : (runRecords settings parser world scripts).value = .ok records) :
    (runRecords settings parser world scripts).attempts.map Attempt.script =
      scripts.filter fun script => !skips settings world.fs script := by
  induction scripts generalizing world records with
  | nil => rfl
  | cons script rest ih =>
    obtain ⟨record, others, hfirst, hrest, rfl⟩ := runRecords_cons_value_eq_ok_iff.mp hok
    rw [runRecords_cons_of_ok hfirst, Progress.followedBy, List.map_append, ih hrest,
      process_fs_of_still h, process_attempts, List.filter_cons]
    cases skips settings world.fs script <;> rfl

/-- Each call asks the parser for its script, in some file system. -/
theorem exists_parse_of_mem_attempts {world : World} {scripts : List Path} {call : Attempt}
    (h : call ∈ (runRecords settings parser world scripts).attempts) :
    call.outDir = settings.outDir ∧
      ∃ fs, call.result = (parser.parse fs call.script settings.outDir).1 := by
  induction scripts generalizing world with
  | nil => cases h
  | cons script rest ih =>
    have hstep : call ∈ (process settings parser world script).attempts →
        call.outDir = settings.outDir ∧
          ∃ fs, call.result = (parser.parse fs call.script settings.outDir).1 := by
      intro hmem
      rw [process_attempts] at hmem
      split at hmem
      · cases hmem
      · rw [List.mem_singleton.mp hmem]
        exact ⟨rfl, world.fs, rfl⟩
    cases hfirst : (process settings parser world script).value with
    | error stop =>
      rw [runRecords_cons_of_error hfirst] at h
      exact hstep h
    | ok record =>
      rw [runRecords_cons_of_ok hfirst, Progress.followedBy, List.mem_append] at h
      rcases h with h | h
      · exact hstep h
      · exact ih h

/-- Parsers that answer the same for one script process it in the same way. -/
theorem process_congr {other : Parser} {world : World} {script : Path}
    (hparse : other.parse world.fs script settings.outDir =
      parser.parse world.fs script settings.outDir)
    (hremarks : other.remarks = parser.remarks) :
    process settings other world script = process settings parser world script := by
  simp only [process, attempt, hparse, hremarks]

/-- Parsers that answer the same for the given scripts make the same batch. -/
theorem runRecords_congr {other : Parser} {scripts : List Path}
    (hparse : ∀ fs, ∀ script ∈ scripts,
      other.parse fs script settings.outDir = parser.parse fs script settings.outDir)
    (hremarks : other.remarks = parser.remarks) (world : World) :
    runRecords settings other world scripts = runRecords settings parser world scripts := by
  induction scripts generalizing world with
  | nil => rfl
  | cons script rest ih =>
    have hfirst := process_congr (hparse world.fs script List.mem_cons_self) hremarks
    have hrest := ih fun fs next hnext => hparse fs next (List.mem_cons_of_mem script hnext)
    simp only [runRecords, hfirst, hrest]

/-- A record names its script and the parse tree of that script. -/
theorem process_names {world : World} {script : Path} {record : Record}
    (h : (process settings parser world script).value = .ok record) :
    record.script = script ∧ record.artifact = Artifact.path script settings.outDir := by
  cases course settings parser world script with
  | current hskip =>
    rw [process_current settings hskip] at h
    cases h
    exact ⟨rfl, rfl⟩
  | notStarted hdue hparse =>
    rw [process_notStarted settings hdue hparse] at h
    obtain ⟨outcome, -, rfl⟩ := map_eq_ok_iff.mp h
    exact ⟨rfl, rfl⟩
  | refused hdue hparse hecho =>
    rw [process_refused settings hdue hparse hecho] at h
    cases h
  | finished hdue hparse hecho =>
    rw [process_finished settings hdue hparse hecho] at h
    obtain ⟨outcome, -, rfl⟩ := map_eq_ok_iff.mp h
    exact ⟨rfl, rfl⟩

/-- The records of a batch name its scripts and their parse trees, in order. -/
theorem runRecords_names {world : World} {scripts : List Path} {records : List Record}
    (h : (runRecords settings parser world scripts).value = .ok records) :
    records.map (fun record => (record.script, record.artifact)) =
      scripts.map fun script => (script, Artifact.path script settings.outDir) := by
  induction scripts generalizing world records with
  | nil =>
    cases h
    rfl
  | cons script rest ih =>
    obtain ⟨record, others, hfirst, hrest, rfl⟩ := runRecords_cons_value_eq_ok_iff.mp h
    obtain ⟨hscript, hartifact⟩ := process_names hfirst
    rw [List.map_cons, List.map_cons, ih hrest, hscript, hartifact]

end Fixtures.Batch
