import Mathlib
import Fixtures.Proofs.Batch.Incremental
import Fixtures.Proofs.Generate.DryRun
import Fixtures.Proofs.Generate.Summary

/-!
# The plan and the current parse trees

A run may leave out scripts whose parse tree is current. A dry run does not look at parse trees: it
plans an invocation for every collected script and counts them all. So the plan holds what a run
would call exactly if no collected script has a current parse tree.

The same command without the flag for a dry run calls just the scripts whose parse tree is not
current, on a host that leaves the files as they are, if its policy goes on and its echo is not
refused.
-/

namespace Fixtures

namespace Generate

open Batch

/-- The scripts that are due: those without a current parse tree. -/
def due (settings : Settings) (fs : FileSystem) (scripts : List Path) : List Path :=
  scripts.filter fun script => !fs.isUpToDate script (Artifact.path script settings.outDir)

/-- As many scripts are due as there are exactly if none has a current parse tree. -/
theorem length_due_eq_iff {settings : Settings} {fs : FileSystem} {scripts : List Path} :
    (due settings fs scripts).length = scripts.length ↔
      ∀ script ∈ scripts,
        fs.isUpToDate script (Artifact.path script settings.outDir) = false := by
  rw [due, List.length_filter_eq_length_iff]
  simp only [Bool.not_eq_true']

/-- The count of a plan. -/
theorem ofPart_counts_plan (settings : Settings) (scripts : List Path) :
    (Notice.ofPart .counts (plan settings scripts)).map
        (Notice.render Log.Filter.standard false) =
      if scripts = [] then []
      else ["[DONE] [DRY] " ++ toString scripts.length ++ " invocations planned\n"] := by
  by_cases hnone : scripts = []
  · rw [if_pos hnone, hnone]
    rfl
  · have hsome : scripts.isEmpty = false := by simpa using hnone
    have hcounts : Notice.ofPart .counts (plan settings scripts) =
        [.status .done ("[DRY] " ++ toString scripts.length ++ " invocations planned")] := by
      rw [plan, hsome]
      rfl
    rw [if_neg hnone, hcounts, List.map_singleton, render_status, List.singleton_inj,
      ← String.toList_inj]
    simp only [Status.mark, String.toList_append, List.append_assoc]
    rfl

/-- The count that a dry run of collected scripts shows is that of its plan. -/
theorem ofPart_counts_of_listed {host : Host} {request : Options.Request} {world : World}
    {scripts : List Path} (hvalid : request.settings.validate = .ok ())
    (hdry : request.settings.dryRun = true)
    (hcollect : collect request.settings world.fs = .ok scripts) :
    Notice.ofPart .counts (diagnostics (run host request world)) =
      Notice.ofPart .counts (plan request.settings scripts) := by
  have hnotices : (run host request world).notices = opening request.settings ++
      .event (Collect.event request.settings.scriptsDir scripts.length) ::
        plan request.settings scripts := by
    rw [collect] at hcollect
    simp only [run, hvalid, hdry, ite_true, dryRun, hcollect]
  rw [ofPart_diagnostics (by decide), hnotices, Notice.ofPart_append,
    Notice.ofPart_of_forall part_of_mem_opening, if_neg (by decide), List.nil_append]
  rfl

/-- A command that is no dry run and leaves out scripts with a current parse tree calls the due
scripts, if its host leaves the files as they are, its policy goes on and its echo is audible. -/
theorem run_calls_due {host : Host} {request : Options.Request} {world : World}
    {scripts : List Path} (hvalid : request.settings.validate = .ok ())
    (hreal : request.settings.dryRun = false) (hskip : request.settings.skipUpToDate = true)
    (hcollect : collect request.settings world.fs = .ok scripts)
    (hhost : ∀ fs argv, (host fs argv).2 = fs) (hgoes : request.settings.onFailure ≠ .abort)
    (haudible : Audible request.settings world.writer) :
    (run host request world).attempts.map Attempt.script =
      due request.settings world.fs scripts := by
  have hstill : Still ((command request.settings).parser host) := by
    intro fs script outDir
    exact hhost fs _
  obtain ⟨records, hrecords⟩ :=
    runRecords_ok_of_audible hgoes haudible ((command request.settings).parser host) scripts
  rw [run_attempts hvalid hreal hcollect, runRecords_attempts_of_still hstill hrecords, due]
  simp only [skips_eq_isUpToDate hskip]

/-- A dry run plans what is current, too: its rows and its count are those of the due scripts
exactly if no collected script has a current parse tree. -/
theorem dryRun_plans_what_is_current (host : Host) (request : Options.Request) (world : World)
    (scripts : List Path) (hvalid : request.settings.validate = .ok ())
    (hdry : request.settings.dryRun = true) (hskip : request.settings.skipUpToDate = true)
    (hcollect : collect request.settings world.fs = .ok scripts) :
    let settings := request.settings
    let wanted := due settings world.fs scripts
    let dry := run host request world
    let real := run host { request with settings := { settings with dryRun := false } } world
    shownRows dry = scripts.map (planRow settings) ∧
    (Notice.ofPart .counts (diagnostics dry)).map (Notice.render Log.Filter.standard false) =
      (if scripts = [] then []
      else ["[DONE] [DRY] " ++ toString scripts.length ++ " invocations planned\n"]) ∧
    (shownRows dry = wanted.map (planRow settings) ↔ ∀ script ∈ scripts,
      world.fs.isUpToDate script (Artifact.path script settings.outDir) = false) ∧
    (scripts.length = wanted.length ↔ ∀ script ∈ scripts,
      world.fs.isUpToDate script (Artifact.path script settings.outDir) = false) ∧
    ((∀ fs argv, (host fs argv).2 = fs) → settings.onFailure ≠ .abort →
      (settings.verbose = true → world.writer.Reliable) →
        real.attempts.map Attempt.script = wanted) := by
  intro settings wanted dry real
  have hrows : shownRows dry = scripts.map (planRow settings) :=
    (run_of_listed hvalid hdry hcollect).2.1
  refine ⟨hrows, ?_, ?_, ?_, ?_⟩
  · rw [ofPart_counts_of_listed hvalid hdry hcollect, ofPart_counts_plan]
  · rw [hrows]
    constructor
    · intro heq
      have hlength := congrArg List.length heq
      rw [List.length_map, List.length_map] at hlength
      exact length_due_eq_iff.mp hlength.symm
    · intro hnone
      have hall : wanted = scripts := by
        apply List.filter_eq_self.mpr
        intro script hmem
        rw [hnone script hmem]
        rfl
      rw [hall]
  · rw [eq_comm]
    exact length_due_eq_iff
  · intro hhost hgoes haudible
    let actual : Options.Request := { request with settings := { settings with dryRun := false } }
    have hvalid' : actual.settings.validate = .ok () := hvalid
    have hcollect' : collect actual.settings world.fs = .ok scripts := hcollect
    exact run_calls_due hvalid' rfl hskip hcollect' hhost hgoes haudible

/-- A request for a dry run that leaves out scripts with a current parse tree. -/
def thriftyPlan : Options.Request := ⟨{ thriftySettings with dryRun := true }, none⟩

theorem thriftyPlan_valid : thriftyPlan.settings.validate = .ok () :=
  eq_ok_of_toOption (by decide +kernel)

/-- Two scripts are collected where one has a parse tree. -/
theorem thriftyPlan_collect : collect thriftyPlan.settings oneTree =
    .ok [Path.ofText "./a.boink", Path.ofText "./b.boink"] := by
  cbv

/-- Only the other one is due. -/
theorem thriftyPlan_due : due thriftyPlan.settings oneTree
    [Path.ofText "./a.boink", Path.ofText "./b.boink"] = [Path.ofText "./b.boink"] := by
  cbv

/-- Two rows and the count of two, where a run calls one script. -/
theorem dryRun_plans_what_is_current_of_two :
    let world : World := ⟨oneTree, {}⟩
    let real := run bareHost ⟨{ thriftyPlan.settings with dryRun := false }, none⟩ world
    shownRows (run bareHost thriftyPlan world) =
        [["./a.boink", "./a.json", "boinkmain parse ./a.boink ."],
          ["./b.boink", "./b.json", "boinkmain parse ./b.boink ."]] ∧
      real.attempts.map Attempt.script = [Path.ofText "./b.boink"] := by
  intro world real
  obtain ⟨hrows, -, -, -, hcalls⟩ := dryRun_plans_what_is_current bareHost thriftyPlan world _
    thriftyPlan_valid rfl rfl thriftyPlan_collect
  refine ⟨hrows.trans (by decide +kernel), ?_⟩
  rw [← thriftyPlan_due]
  exact hcalls (fun _ _ => rfl) (by decide) (fun hverbose => by cases hverbose)

/-- A planned row for a script that is left out: the command line has both flags, the parse tree of
the first script is current, and the plan has its row and counts it. -/
theorem dryRun_plans_current_script :
    let arguments := [Utf8.encode "--dir", Utf8.encode ".", Utf8.encode "--dry-run",
      Utf8.encode "--skip-up-to-date"]
    let done := run bareHost thriftyPlan ⟨oneTree, {}⟩
    Options.parse {} arguments = .ok thriftyPlan ∧
      oneTree.isUpToDate (Path.ofText "./a.boink") (Path.ofText "./a.json") = true ∧
      ["./a.boink", "./a.json", "boinkmain parse ./a.boink ."] ∈ shownRows done ∧
      (due thriftyPlan.settings oneTree
        [Path.ofText "./a.boink", Path.ofText "./b.boink"]).length = 1 ∧
      (Notice.ofPart .counts (diagnostics done)).map (Notice.render Log.Filter.standard false) =
        ["[DONE] [DRY] 2 invocations planned\n"] := by
  intro arguments done
  have hrow : planRow thriftyPlan.settings (Path.ofText "./a.boink") =
      ["./a.boink", "./a.json", "boinkmain parse ./a.boink ."] := by decide +kernel
  refine ⟨eq_ok_of_toOption (by decide +kernel), by cbv, ?_, ?_, ?_⟩
  · rw [(run_of_listed thriftyPlan_valid rfl thriftyPlan_collect).2.1, ← hrow]
    exact List.mem_map_of_mem List.mem_cons_self
  · rw [thriftyPlan_due]
    rfl
  · rw [ofPart_counts_of_listed thriftyPlan_valid rfl thriftyPlan_collect, ofPart_counts_plan]
    rfl

end Generate

end Fixtures
