import Mathlib
import Fixtures.Proofs.Batch.Accounting
import Fixtures.Proofs.Batch.Calls
import Fixtures.Proofs.Batch.Failures
import Fixtures.Proofs.Generate.Stages
import Fixtures.Proofs.Notice
import Fixtures.Proofs.Options.Flags
import Fixtures.Proofs.Table

/-!
# The plan and the run

A dry run starts nothing, whatever the host, leaves the world as it is and plans one row for each
collected script: its text, the text of its parse tree and the parts of its command in their shown
form. The rows are printed as a table that shows every line of every cell.

A command line that is accepted with the flag for a dry run is accepted without it. The command
without the flag calls some of the planned scripts in their order, and all of them if none is left
out, the policy goes on and the echo is not refused. Each call starts the program and the arguments
of its row, so the run depends on the host only through the planned commands; and the records that
are made up to any script have the texts of their rows. If the settings are refused or nothing can
be collected, both commands fail with that.
-/

namespace Fixtures

/-- The rows of a notice, if it is a table. -/
def Notice.rows : Notice → List (List String)
  | table t => t.rows
  | _ => []

namespace Generate

open Batch

/-- The rows of all tables that a command shows. -/
def shownRows (progress : Progress Unit) : List (List String) :=
  progress.notices.flatMap Notice.rows

/-- The plan has one row for each script. -/
theorem plan_rows (settings : Settings) (scripts : List Path) :
    (plan settings scripts).flatMap Notice.rows = scripts.map (planRow settings) := by
  rw [plan]
  cases scripts with
  | nil => rfl
  | cons script rest => simp [Notice.rows]

/-- Nothing that is said before the scripts are collected is a table. -/
theorem ofPart_opening (settings : Settings) : Notice.ofPart .table (opening settings) = [] := rfl

/-- The text of a plan has a table with its rows, unless there are no scripts. -/
theorem shows_plan (settings : Settings) (scripts : List Path) (filter : Log.Filter)
    (color : Bool) :
    let texts := (Notice.ofPart .table (plan settings scripts)).map (Notice.render filter color)
    (scripts = [] → texts = []) ∧ (scripts ≠ [] → ∃ text, texts = [text] ∧
      Table.Shows ["Script", "Parse tree", "Command"] (scripts.map (planRow settings)) text) := by
  intro texts
  cases scripts with
  | nil => exact ⟨fun _ => rfl, fun hsome => absurd rfl hsome⟩
  | cons script rest =>
    refine ⟨fun hnone => (List.cons_ne_nil _ _ hnone).elim, fun _ => ⟨_, rfl, ?_⟩⟩
    apply Table.shows_render
    intro row hrow
    obtain ⟨planned, -, rfl⟩ := List.mem_map.mp hrow
    rfl

section Commands

variable {host : Host} {request : Options.Request} {world : World}

/-- A dry run calls nothing and changes nothing. -/
theorem run_of_dryRun (hdry : request.settings.dryRun = true) :
    (run host request world).attempts = [] ∧ (run host request world).world = world := by
  have hended := run_ended host request world
  generalize run host request world = done at hended
  cases hended with
  | invalid _ => exact ⟨rfl, rfl⟩
  | uncollected _ _ => exact ⟨rfl, rfl⟩
  | listed _ _ _ => exact ⟨rfl, rfl⟩
  | stopped _ _ hreal _ => cases hdry.symm.trans hreal
  | unsaved _ _ hreal _ _ => cases hdry.symm.trans hreal
  | judged _ _ hreal _ _ => cases hdry.symm.trans hreal

/-- The host has no part in a dry run. -/
theorem run_dryRun_host (hdry : request.settings.dryRun = true) (other : Host) :
    run other request world = run host request world := by
  simp only [run, hdry, ite_true]

/-- A dry run of collected scripts comes through and shows a row for each of them, in the one table
that it prints. -/
theorem run_of_listed (hvalid : request.settings.validate = .ok ())
    (hdry : request.settings.dryRun = true) {scripts : List Path}
    (hcollect : collect request.settings world.fs = .ok scripts) :
    (run host request world).value = .ok () ∧
      shownRows (run host request world) = scripts.map (planRow request.settings) ∧
      Notice.ofPart .table (diagnostics (run host request world)) =
        Notice.ofPart .table (plan request.settings scripts) := by
  have hended := run_ended host request world
  generalize run host request world = done at hended
  cases hended with
  | invalid hinvalid => cases hvalid.symm.trans hinvalid
  | uncollected _ hnone => cases hcollect.symm.trans hnone
  | listed _ hsome _ =>
    cases hcollect.symm.trans hsome
    refine ⟨rfl, ?_, ?_⟩
    · rw [shownRows, List.flatMap_append, List.flatMap_cons, plan_rows]
      rfl
    · rw [diagnostics, Notice.ofPart_append, ofPart_opening]
      rfl
  | stopped _ _ hreal _ => cases hdry.symm.trans hreal
  | unsaved _ _ hreal _ _ => cases hdry.symm.trans hreal
  | judged _ _ hreal _ _ => cases hdry.symm.trans hreal

/-- A command whose settings are refused fails with that. -/
theorem run_value_of_invalid {failure : Failure}
    (h : request.settings.validate = .error failure) :
    (run host request world).value = .error failure := by
  rw [run, h]

/-- A command without scripts fails with that, in a dry run or not. -/
theorem run_value_of_uncollected {failure : Failure} (hvalid : request.settings.validate = .ok ())
    (h : collect request.settings world.fs = .error failure) :
    (run host request world).value = .error failure := by
  have hended := run_ended host request world
  generalize run host request world = done at hended
  cases hended with
  | invalid hinvalid => cases hvalid.symm.trans hinvalid
  | uncollected _ hnone =>
    cases h.symm.trans hnone
    rfl
  | listed _ hsome _ => cases h.symm.trans hsome
  | stopped _ hsome _ _ => cases h.symm.trans hsome
  | unsaved _ hsome _ _ _ => cases h.symm.trans hsome
  | judged _ hsome _ _ _ => cases h.symm.trans hsome

/-- The calls of a command that is no dry run are those of its batch. -/
theorem run_attempts (hvalid : request.settings.validate = .ok ())
    (hreal : request.settings.dryRun = false) {scripts : List Path}
    (hcollect : collect request.settings world.fs = .ok scripts) :
    (run host request world).attempts =
      (runRecords request.settings ((command request.settings).parser host) world
        scripts).attempts := by
  have hbatch : (batchOf host request.settings world).attempts = (runRecords request.settings
      ((command request.settings).parser host) world scripts).attempts := by
    rw [batchOf, collectAndRun_of_ok hcollect]
  rw [← hbatch]
  have hended := run_ended host request world
  generalize run host request world = done at hended
  cases hended with
  | invalid hinvalid => cases hvalid.symm.trans hinvalid
  | uncollected _ hnone => cases hcollect.symm.trans hnone
  | listed _ _ hdry => cases hreal.symm.trans hdry
  | stopped _ _ _ _ => rfl
  | unsaved _ _ _ _ _ => rfl
  | judged _ _ _ _ _ => rfl

/-- Hosts that answer the planned commands alike lead to the same run. -/
theorem run_congr {scripts : List Path} (hcollect : collect request.settings world.fs = .ok scripts)
    {other : Host}
    (h : ∀ fs, ∀ script ∈ scripts,
      other fs ((command request.settings).argv script request.settings.outDir) =
        host fs ((command request.settings).argv script request.settings.outDir)) :
    run other request world = run host request world := by
  have hparse : ∀ fs, ∀ script ∈ scripts,
      ((command request.settings).parser other).parse fs script request.settings.outDir =
        ((command request.settings).parser host).parse fs script request.settings.outDir := by
    intro fs script hscript
    simp only [ParserCommand.parser, h fs script hscript]
  have hbatch : collectAndRun request.settings ((command request.settings).parser other) world =
      collectAndRun request.settings ((command request.settings).parser host) world := by
    rw [collectAndRun_of_ok hcollect, collectAndRun_of_ok hcollect, runRecords_congr hparse rfl]
  simp only [run, realRun, hbatch]

end Commands

/-- The texts of a record that a plan foretells: the script and its parse tree. -/
def foretold (record : Record) : List String := [Path.text record.script, Path.text record.artifact]

/-- The records of scripts are foretold by the first cells of their rows. -/
theorem map_foretold {settings : Settings} {parser : Parser} {world : World} {scripts : List Path}
    {records : List Record} (h : (runRecords settings parser world scripts).value = .ok records) :
    records.map foretold = (scripts.map (planRow settings)).map (·.take 2) := by
  have hnames := congrArg
    (List.map fun names : Path × Path => [Path.text names.1, Path.text names.2])
    (runRecords_names h)
  rw [List.map_map, List.map_map] at hnames
  rw [List.map_map]
  exact hnames

/-- The plan agrees with the run: what a dry run shows and prints is what the same command without
the flag calls and records, and the dry run itself does nothing. -/
theorem dryRun_plans_the_run (environment : Options.Environment) (before after : List Bytes)
    (request : Options.Request)
    (haccepted : Options.parse environment
      (before ++ Options.flagArgument .dryRun :: after) = .ok request)
    (host : Host) (world : World) :
    ∃ actual, Options.parse environment (before ++ after) = .ok actual ∧
      let settings := actual.settings
      let parts := fun script => (command settings).program ::
        (command settings).arguments script settings.outDir
      let dry := run host request world
      let real := run host actual world
      dry.attempts = [] ∧ dry.world = world ∧ (∀ other, run other request world = dry) ∧
      (∀ failure, settings.validate = .error failure →
        dry.value = .error failure ∧ real.value = .error failure) ∧
      (∀ failure, settings.validate = .ok () → collect settings world.fs = .error failure →
        dry.value = .error failure ∧ real.value = .error failure) ∧
      (∀ scripts, settings.validate = .ok () → collect settings world.fs = .ok scripts →
        dry.value = .ok () ∧
        shownRows dry = scripts.map (fun script =>
          [Path.text script, Path.text (Artifact.path script settings.outDir),
            " ".intercalate ((parts script).map Utf8.lossy)]) ∧
        (∀ (filter : Log.Filter) (color : Bool),
          let texts := (Notice.ofPart .table (diagnostics dry)).map (Notice.render filter color)
          (scripts = [] → texts = []) ∧ (scripts ≠ [] → ∃ text, texts = [text] ∧
            Table.Shows ["Script", "Parse tree", "Command"] (shownRows dry) text)) ∧
        (real.attempts.map Attempt.script).Sublist scripts ∧
        (settings.skipUpToDate = false → settings.onFailure ≠ .abort →
          (settings.verbose = true → world.writer.Reliable) →
            real.attempts.map Attempt.script = scripts) ∧
        (∀ call ∈ real.attempts, call.outDir = settings.outDir ∧
          ∃ fs, call.result =
            (command settings).answer call.script call.outDir (host fs (parts call.script)).1) ∧
        (∀ other : Host, (∀ fs, ∀ script ∈ scripts, other fs (parts script) =
          host fs (parts script)) → run other actual world = real) ∧
        ∀ i tally, (Batch.run settings ((command settings).parser host) world
            (scripts.take i)).value = .ok tally →
          tally.records.map foretold = ((shownRows dry).take i).map (·.take 2)) := by
  obtain ⟨given, hflag, rfl, hactual⟩ := Options.parse_withoutFlag haccepted
  refine ⟨_, hactual, ?_⟩
  intro settings parts dry real
  have hdry : given.request.settings.dryRun = true := hflag
  have hreal : settings.dryRun = false := rfl
  -- The two requests differ in the flag alone, which none of these looks at.
  have hvalidate : given.request.settings.validate = settings.validate := rfl
  have hcollected : collect given.request.settings world.fs = collect settings world.fs := rfl
  have hparts : ∀ script, parts script = (command settings).argv script settings.outDir :=
    fun script => ((command settings).argv_eq script settings.outDir).symm
  have hidle : dry.attempts = [] ∧ dry.world = world := run_of_dryRun hdry
  refine ⟨hidle.1, hidle.2, run_dryRun_host hdry, ?_, ?_, ?_⟩
  · intro failure hinvalid
    exact ⟨run_value_of_invalid (hvalidate.trans hinvalid), run_value_of_invalid hinvalid⟩
  · intro failure hvalid hnone
    exact ⟨run_value_of_uncollected (hvalidate.trans hvalid) (hcollected.trans hnone),
      run_value_of_uncollected hvalid hnone⟩
  · intro scripts hvalid hscripts
    have hlisted : dry.value = .ok () ∧ shownRows dry = scripts.map (planRow settings) ∧
        Notice.ofPart .table (diagnostics dry) = Notice.ofPart .table (plan settings scripts) :=
      run_of_listed (hvalidate.trans hvalid) hdry (hcollected.trans hscripts)
    obtain ⟨hvalue, hrows, htable⟩ := hlisted
    have hcalls : real.attempts = (runRecords settings ((command settings).parser host) world
        scripts).attempts := run_attempts hvalid hreal hscripts
    refine ⟨hvalue, ?_, ?_, ?_, ?_, ?_, ?_, ?_⟩
    · simp only [hparts]
      exact hrows
    · intro filter color
      rw [htable, hrows]
      exact shows_plan settings scripts filter color
    · rw [hcalls]
      exact runRecords_attempts_sublist settings _ world scripts
    · intro hskip hgoes haudible
      obtain ⟨records, hrecords⟩ :=
        runRecords_ok_of_audible hgoes haudible ((command settings).parser host) scripts
      rw [hcalls, runRecords_attempts_of_ok hskip hrecords]
    · intro call hcall
      rw [hcalls] at hcall
      obtain ⟨houtDir, fs, hresult⟩ := exists_parse_of_mem_attempts hcall
      refine ⟨houtDir, fs, ?_⟩
      rw [hresult, houtDir, hparts]
      rfl
    · intro other hother
      simp only [hparts] at hother
      exact run_congr hscripts hother
    · intro i tally htally
      obtain ⟨records, hrecords, rfl⟩ := map_eq_ok_iff.mp htally
      rw [Tally.records_ofRecords, map_foretold hrecords, hrows, List.map_take]

/-- Two scripts are planned for a command with a report, and the command calls both, though their
program is not found. -/
theorem dryRun_plans_the_run_of_two :
    let before := [Utf8.encode "--dir", Utf8.encode "."]
    let after := [Utf8.encode "--report", Utf8.encode "report.csv"]
    let world : World := ⟨twoScripts, {}⟩
    ∃ request actual,
      Options.parse {} (before ++ Options.flagArgument .dryRun :: after) = .ok request ∧
      Options.parse {} (before ++ after) = .ok actual ∧
      (run bareHost request world).world = world ∧
      shownRows (run bareHost request world) =
        [["./a.boink", "./a.json", "boinkmain parse ./a.boink ."],
          ["./b.boink", "./b.json", "boinkmain parse ./b.boink ."]] ∧
      (∃ text, (Notice.ofPart .table (diagnostics (run bareHost request world))).map
          (Notice.render Log.Filter.standard false) = [text] ∧
        Table.Shows ["Script", "Parse tree", "Command"]
          (shownRows (run bareHost request world)) text) ∧
      (run bareHost actual world).attempts.map Attempt.script =
        [Path.ofText "./a.boink", Path.ofText "./b.boink"] := by
  intro before after world
  let settings : Settings := { scriptsDir := Path.ofText "." }
  let request : Options.Request :=
    ⟨{ settings with dryRun := true }, some (Path.ofText "report.csv")⟩
  have haccepted : Options.parse {} (before ++ Options.flagArgument .dryRun :: after) =
      .ok request := eq_ok_of_toOption (by decide +kernel)
  have hwithout : Options.parse {} (before ++ after) =
      .ok ⟨settings, some (Path.ofText "report.csv")⟩ :=
    eq_ok_of_toOption (by decide +kernel)
  have hvalid : settings.validate = .ok () := eq_ok_of_toOption (by decide +kernel)
  have hcollect : collect settings world.fs =
      .ok [Path.ofText "./a.boink", Path.ofText "./b.boink"] := by cbv
  have hwriter : world.writer.Reliable := (Writer.reliable_iff _).mpr ⟨rfl, rfl⟩
  obtain ⟨actual, hactual, -, hworld, -, -, -, hplan⟩ :=
    dryRun_plans_the_run {} before after request haccepted bareHost world
  cases hwithout.symm.trans hactual
  obtain ⟨-, hrows, htable, -, hall, -⟩ := hplan _ hvalid hcollect
  refine ⟨request, _, haccepted, hwithout, hworld, ?_,
    (htable Log.Filter.standard false).2 (List.cons_ne_nil _ _),
    hall rfl (by decide) fun _ => hwriter⟩
  rw [hrows]
  decide +kernel

end Generate

end Fixtures
