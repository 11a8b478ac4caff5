import Fixtures.Proofs.Batch.Run
import Fixtures.Proofs.Computation

/-!
# What a batch records and says

The exit code of a record agrees with its outcome, under every policy: it is zero for a success,
absent for a script that was left out, and anything but zero for a failure. While it runs, a batch
notes events and warns of failures; it never sums anything up.
-/

namespace Fixtures

/-- Whether a notice is of a kind that a batch gives while it runs. -/
def Notice.isRunning : Notice → Bool
  | event _ => true
  | status .warning _ => true
  | _ => false

namespace Batch

variable {settings : Settings} {parser : Parser}

section Notices

-- A batch says nothing but events and warnings of failed scripts, so what holds of these holds of
-- all that it says.
variable {Holds : Notice → Prop} (hevent : ∀ event, Holds (.event event))
  (hwarning : ∀ (script : Path) (failure : Failure), Holds (.status .warning
    ("Failed to parse " ++ Path.text script ++ ": " ++ failure.message)))

include hevent

/-- What holds of events holds of a notice that is one. -/
theorem holds_of_event {notice : Notice} (h : ∃ event, notice = .event event) : Holds notice := by
  obtain ⟨event, rfl⟩ := h
  exact hevent event

include hwarning

/-- What is said of a failure. -/
theorem verdict_notices (policy : Policy) (script : Path) (failure : Failure) :
    ∀ notice ∈ (verdict policy script failure).2, Holds notice := by
  cases policy with
  | abort => exact List.forall_mem_nil _
  | warn => exact List.forall_mem_singleton.mpr (hwarning script failure)
  | ignore => exact List.forall_mem_singleton.mpr (hevent _)

/-- What is said of an invocation. -/
theorem judge_notices (policy : Policy) (fs : FileSystem) (script artifact : Path)
    (invocation : Invocation) :
    ∀ notice ∈ (judge policy fs script artifact invocation).2, Holds notice := by
  intro notice hmem
  rw [judge] at hmem
  split at hmem
  · change notice ∈ (if fs.pathExists artifact then [] else _) at hmem
    split at hmem
    · cases hmem
    · exact holds_of_event hevent ⟨_, List.mem_singleton.mp hmem⟩
  · exact verdict_notices hevent hwarning policy script invocation.failure notice hmem

/-- What is said of one script. -/
theorem process_notices (settings : Settings) (parser : Parser) (world : World) (script : Path) :
    ∀ notice ∈ (process settings parser world script).notices, Holds notice := by
  intro notice hmem
  cases course settings parser world script with
  | current hskip =>
    rw [process_current settings hskip] at hmem
    exact holds_of_event hevent ⟨_, List.mem_singleton.mp hmem⟩
  | notStarted hdue hparse =>
    rw [process_notStarted settings hdue hparse] at hmem
    rcases List.mem_append.mp hmem with hremark | hverdict
    · exact holds_of_event hevent (remarkNotices_events hremark)
    · exact verdict_notices hevent hwarning _ _ _ notice hverdict
  | refused hdue hparse hecho =>
    rw [process_refused settings hdue hparse hecho] at hmem
    rcases List.mem_append.mp hmem with hremark | hechoed
    · exact holds_of_event hevent (remarkNotices_events hremark)
    · exact holds_of_event hevent (echo_events hechoed)
  | finished hdue hparse hecho =>
    rw [process_finished settings hdue hparse hecho] at hmem
    rcases List.mem_append.mp hmem with hmem | hjudge
    · rcases List.mem_append.mp hmem with hremark | hechoed
      · exact holds_of_event hevent (remarkNotices_events hremark)
      · exact holds_of_event hevent (echo_events hechoed)
    · exact judge_notices hevent hwarning _ _ _ _ _ notice hjudge

/-- What is said of scripts in order. -/
theorem runRecords_notices (settings : Settings) (parser : Parser) (world : World)
    (scripts : List Path) :
    ∀ notice ∈ (runRecords settings parser world scripts).notices, Holds notice := by
  induction scripts generalizing world with
  | nil => exact List.forall_mem_nil _
  | cons script rest ih =>
    have hfirst := process_notices hevent hwarning settings parser world script
    cases hvalue : (process settings parser world script).value with
    | error failure =>
      rw [runRecords_cons_of_error hvalue]
      exact hfirst
    | ok record =>
      rw [runRecords_cons_of_ok hvalue]
      exact List.forall_mem_append.mpr ⟨hfirst, ih _⟩

/-- What is said of a collected batch. -/
theorem collectAndRun_notices (settings : Settings) (parser : Parser) (world : World) :
    ∀ notice ∈ (collectAndRun settings parser world).notices, Holds notice := by
  cases hcollect : collect settings world.fs with
  | error failure =>
    rw [collectAndRun_of_error hcollect]
    exact List.forall_mem_nil _
  | ok scripts =>
    rw [collectAndRun_of_ok hcollect]
    exact List.forall_mem_cons.mpr
      ⟨hevent _, runRecords_notices hevent hwarning settings parser world scripts⟩

end Notices

/-- A collected batch gives no other notices than a batch gives while it runs. -/
theorem collectAndRun_isRunning (settings : Settings) (parser : Parser) (world : World) :
    ∀ notice ∈ (collectAndRun settings parser world).notices, notice.isRunning = true :=
  collectAndRun_notices (fun _ => rfl) (fun _ _ => rfl) settings parser world

end Batch

end Fixtures
