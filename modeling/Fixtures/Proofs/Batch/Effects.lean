import Fixtures.Proofs.Batch.Calls

/-!
# What the calls of a batch leave

A batch does nothing to the files itself: it leaves what its calls leave, one after another. Each
call has the answer that the parser gives on the files that the calls before it left, so the calls
of a batch with their answers can be replayed without it.
-/

namespace Fixtures.Batch

/-- The files that calls of the parser leave, one after another. -/
def effects (parser : Parser) (fs : FileSystem) (calls : List Attempt) : FileSystem :=
  calls.foldl (fun fs call => (parser.parse fs call.script call.outDir).2) fs

/-- Whether each call has the answer that the parser gives on the files that the calls before it
left. -/
def Answered (parser : Parser) : FileSystem → List Attempt → Prop
  | _, [] => True
  | fs, call :: rest =>
    call.result = (parser.parse fs call.script call.outDir).1 ∧
      Answered parser (parser.parse fs call.script call.outDir).2 rest

variable {settings : Settings} {parser : Parser}

theorem effects_cons (parser : Parser) (fs : FileSystem) (call : Attempt) (rest : List Attempt) :
    effects parser fs (call :: rest) =
      effects parser (parser.parse fs call.script call.outDir).2 rest := rfl

theorem effects_append (parser : Parser) (fs : FileSystem) (calls others : List Attempt) :
    effects parser fs (calls ++ others) = effects parser (effects parser fs calls) others :=
  List.foldl_append

/-- Calls and more calls are answered if the later ones are on the files that the earlier ones
left. -/
theorem answered_append {fs : FileSystem} {calls others : List Attempt} :
    Answered parser fs (calls ++ others) ↔
      Answered parser fs calls ∧ Answered parser (effects parser fs calls) others := by
  induction calls generalizing fs with
  | nil => simp [Answered, effects]
  | cons call rest ih => simp only [List.cons_append, Answered, ih, effects_cons, and_assoc]

/-- A part of a batch that leaves what its calls leave. -/
structure Traced {α : Type} (parser : Parser) (fs : FileSystem) (part : Progress α) : Prop where
  /-- The calls have the answers of the parser. -/
  answered : Answered parser fs part.attempts
  /-- The files are what the calls left. -/
  left : part.world.fs = effects parser fs part.attempts

/-- Where nothing is called and the world stays as it is, nothing is left. -/
theorem Traced.idle {α : Type} (parser : Parser) (value : Except Failure α) (world : World)
    (notices : List Notice) : Traced parser world.fs ⟨value, world, [], notices⟩ :=
  ⟨trivial, rfl⟩

/-- One script leaves what its call leaves. -/
theorem process_traced (settings : Settings) (parser : Parser) (world : World) (script : Path) :
    Traced parser world.fs (process settings parser world script) := by
  cases course settings parser world script with
  | current hskip =>
    rw [process_current settings hskip]
    exact .idle parser _ world _
  | notStarted hdue hparse =>
    rw [process_notStarted settings hdue hparse]
    exact ⟨by simp [Answered, hparse], by simp [effects, hparse]⟩
  | refused hdue hparse hecho =>
    rw [process_refused settings hdue hparse hecho]
    exact ⟨by simp [Answered, hparse], by simp [effects, hparse]⟩
  | finished hdue hparse hecho =>
    rw [process_finished settings hdue hparse hecho]
    exact ⟨by simp [Answered, hparse], by simp [effects, hparse]⟩

/-- A batch leaves what its calls leave. -/
theorem runRecords_traced (settings : Settings) (parser : Parser) (world : World)
    (scripts : List Path) : Traced parser world.fs (runRecords settings parser world scripts) := by
  induction scripts generalizing world with
  | nil => exact .idle parser _ world _
  | cons script rest ih =>
    have hstep := process_traced settings parser world script
    cases hfirst : (process settings parser world script).value with
    | error stop =>
      rw [runRecords_cons_of_error hfirst]
      exact ⟨hstep.answered, hstep.left⟩
    | ok record =>
      have hrest := ih (process settings parser world script).world
      rw [hstep.left] at hrest
      rw [runRecords_cons_of_ok hfirst, Progress.followedBy]
      exact ⟨answered_append.mpr ⟨hstep.answered, hrest.answered⟩,
        hrest.left.trans (effects_append ..).symm⟩

/-- A tallied batch leaves what its calls leave. -/
theorem run_traced (settings : Settings) (parser : Parser) (world : World) (scripts : List Path) :
    Traced parser world.fs (run settings parser world scripts) :=
  ⟨(runRecords_traced settings parser world scripts).answered,
    (runRecords_traced settings parser world scripts).left⟩

/-- A collected batch leaves what its calls leave. -/
theorem collectAndRun_traced (settings : Settings) (parser : Parser) (world : World) :
    Traced parser world.fs (collectAndRun settings parser world) := by
  cases hcollect : collect settings world.fs with
  | error failure =>
    rw [collectAndRun_of_error hcollect]
    exact .idle parser _ world _
  | ok scripts =>
    have htraced := runRecords_traced settings parser world scripts
    rw [collectAndRun_of_ok hcollect]
    exact ⟨htraced.answered, htraced.left⟩

/-- What every call keeps, all calls keep. -/
theorem effects_keep {motive : FileSystem → Prop}
    (hkeep : ∀ fs script outDir, motive fs → motive (parser.parse fs script outDir).2)
    {fs : FileSystem} (h : motive fs) (calls : List Attempt) :
    motive (effects parser fs calls) := by
  induction calls generalizing fs with
  | nil => exact h
  | cons call rest ih => exact ih (hkeep fs call.script call.outDir h)

/-- Whether a call was started: the parser answered with an invocation. -/
def Attempt.started (call : Attempt) : Bool := call.result.isOk

/-- If a parser that was not started leaves the files as they are, only the started calls leave
anything. -/
theorem effects_started
    (hinert : ∀ fs script outDir, (parser.parse fs script outDir).1.isOk = false →
      (parser.parse fs script outDir).2 = fs)
    {fs : FileSystem} {calls : List Attempt} (h : Answered parser fs calls) :
    effects parser fs (calls.filter Attempt.started) = effects parser fs calls := by
  induction calls generalizing fs with
  | nil => rfl
  | cons call rest ih =>
    obtain ⟨hresult, hrest⟩ := h
    cases hstarted : call.started with
    | true => rw [List.filter_cons_of_pos hstarted, effects_cons, effects_cons, ih hrest]
    | false =>
      rw [Attempt.started, hresult] at hstarted
      have hsame := hinert fs call.script call.outDir hstarted
      rw [hsame] at hrest
      rw [List.filter_cons_of_neg (by rw [Attempt.started, hresult, hstarted]; decide), ih hrest,
        effects_cons, hsame]

end Fixtures.Batch
