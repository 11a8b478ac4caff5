import Mathlib
import Fixtures.Proofs.Generate.Summary
import Fixtures.Proofs.Options.Reachable

/-!
# The warning that there are no scripts

A command that comes to its scripts warns that there are none exactly if it collects none, whether
it lists the invocations or makes them. The warning names the suffix that the settings show.

Whatever is asked for, on the command line or by variables, no path is empty and the extension does
not start with a dot. So the settings are never refused for their executable; they are refused
exactly if the extension that is given, without the dots in front, is empty or has a slash of either
kind. The suffix that they show is the one that scripts are collected by, so the warning is true: it
is printed exactly if no entry with that suffix leads to a regular file.

Nothing else that is printed has the text of a warning: texts of different kinds start differently.
-/

namespace Fixtures

/-- Nothing is collected exactly if no name in the directory is a candidate. -/
theorem Batch.exists_locate_of_collect {settings : Settings} {fs : FileSystem}
    {scripts : List Path} (h : collect settings fs = .ok scripts) :
    ∃ here node, fs.locate settings.scriptsDir = .ok (here, node) ∧ node.content = .directory ∧
      (scripts = [] ↔ ¬∃ name,
        Collect.Candidate fs settings.scriptsDir here settings.extension name) := by
  have hcollected := Collect.scripts_collected fs settings.scriptsDir
    (Collect.suffix settings.extension)
  rw [← collect, h] at hcollected
  cases hcollected with
  | @found here node hdir hnode _ =>
    refine ⟨here, node, hdir, hnode, ?_⟩
    rw [List.map_eq_nil_iff, List.eq_nil_iff_forall_not_mem, not_exists]
    simp only [Collect.mem_scriptNames_iff]

/-- The characters of the mark at the start of a status line. -/
def Status.lead (color : Bool) (kind : Status) : List Char :=
  (Style.paint color kind.style kind.mark).toList

namespace Notice

/-- What the text of a notice starts with, whatever the notice says. -/
def lead (color : Bool) : Notice → List Char
  | status kind _ => kind.lead color
  | generated _ _ => Status.success.lead color
  | header _ => ['\n']
  | separator => if color then Style.dimmed.opening.toList else ['─']
  | table _ => ['+']
  | event _ => ['<']
  | verbatim _ => []

/-- The text of a notice that is shown starts in this way. -/
theorem lead_prefix_render {filter : Log.Filter} {notice : Notice} (color : Bool)
    (h : notice.shown filter = true) :
    notice.lead color <+: (notice.render filter color).toList := by
  cases notice with
  | status kind text =>
    simp only [lead, Status.lead, render, String.toList_append, List.append_assoc]
    exact List.prefix_append _ _
  | generated script tree =>
    simp only [lead, Status.lead, render, String.toList_append, List.append_assoc]
    exact List.prefix_append _ _
  | header title =>
    simp only [lead, render, String.toList_append, List.append_assoc]
    exact List.prefix_append ['\n'] _
  | separator =>
    rw [lead, render, Style.paint]
    split
    · simp only [String.toList_append, List.append_assoc]
      exact List.prefix_append _ _
    · have hrule : rule.toList = ['─'] ++ List.replicate 59 '─' := String.toList_ofList
      simp only [String.toList_append, hrule, List.append_assoc]
      exact List.prefix_append _ _
  | table t =>
    rw [lead, render, String.toList_append]
    exact (Table.corner_prefix_render t).trans (List.prefix_append _ _)
  | event e =>
    rw [shown] at h
    rw [lead, render, if_pos h, Log.Event.render]
    simp only [String.toList_append, List.append_assoc]
    exact List.prefix_append ['<'] _
  | verbatim text => exact List.nil_prefix

/-- Only a warning starts as a warning does, where nothing is printed as it is. -/
theorem exists_warning_of_lead {notice : Notice} {color : Bool}
    (hverbatim : ∀ text, notice ≠ verbatim text)
    (h : notice.lead color <+: Status.warning.lead color ∨
      Status.warning.lead color <+: notice.lead color) :
    ∃ text, notice = status .warning text := by
  cases notice with
  | status kind text =>
    cases kind with
    | warning => exact ⟨text, rfl⟩
    | _ =>
      rw [lead] at h
      exact absurd h (by cases color <;> decide +kernel)
  | verbatim text => exact absurd rfl (hverbatim text)
  | _ =>
    rw [lead] at h
    exact absurd h (by cases color <;> decide +kernel)

section Warning

variable {filter : Log.Filter} {color : Bool} {text : String}

/-- The text of a warning starts with its mark. -/
theorem lead_prefix_warning :
    Status.warning.lead color <+: ((status .warning text).render filter color).toList :=
  @lead_prefix_render filter (status .warning text) color rfl

/-- A warning has a text. -/
theorem render_warning_ne_empty : (status .warning text).render filter color ≠ "" := by
  intro hempty
  have hlead : Status.warning.lead color <+: ((status .warning text).render filter color).toList :=
    lead_prefix_warning
  rw [hempty] at hlead
  exact absurd hlead (by cases color <;> decide +kernel)

/-- A notice with the text of a warning is that warning, unless it is printed as it is. -/
theorem eq_warning_of_render {notice : Notice} (hverbatim : ∀ text, notice ≠ verbatim text)
    (h : notice.render filter color = (status .warning text).render filter color) :
    notice = status .warning text := by
  cases hshown : notice.shown filter with
  | false => exact absurd (h.symm.trans (render_of_not_shown color hshown)) render_warning_ne_empty
  | true =>
    have hlead := lead_prefix_render color hshown
    rw [h] at hlead
    obtain ⟨other, rfl⟩ := exists_warning_of_lead hverbatim
      (List.prefix_or_prefix_of_prefix hlead lead_prefix_warning)
    have htext := congrArg String.toList h
    simp only [render, String.toList_append] at htext
    rw [String.toList_inj.mp (List.append_cancel_left (List.append_cancel_right htext))]

/-- The text of a report is not that of a warning: it is empty or starts with the first title. -/
theorem report_ne_warning (records : List Record) :
    Report.render records ≠ (status .warning text).render filter color := by
  intro h
  cases records with
  | nil => exact render_warning_ne_empty h.symm
  | cons record rest =>
    have hstart : ['s'] <+: (Report.render (record :: rest)).toList := by
      rw [Report.render, String.toList_ofList]
      exact List.prefix_append ['s'] _
    rw [h] at hstart
    have hleads := List.prefix_or_prefix_of_prefix hstart lead_prefix_warning
    exact absurd hleads (by cases color <;> decide +kernel)

/-- Among notices of which only reports are printed as they are, the text of a warning is printed
exactly if the warning is given. -/
theorem warning_mem_map_render_iff {notices : List Notice}
    (hverbatim : ∀ text, verbatim text ∈ notices → ∃ records, text = Report.render records) :
    (status .warning text).render filter color ∈ notices.map (render filter color) ↔
      status .warning text ∈ notices := by
  constructor
  · intro hmem
    obtain ⟨notice, hnotice, hrender⟩ := List.mem_map.mp hmem
    have hown : ∀ text, notice ≠ verbatim text := by
      rintro other rfl
      obtain ⟨records, rfl⟩ := hverbatim other hnotice
      exact report_ne_warning records hrender
    rwa [← eq_warning_of_render hown hrender]
  · exact List.mem_map_of_mem

end Warning

end Notice

namespace Generate

open Batch

section Parts

variable {settings : Settings}

/-- The warning sums nothing up. -/
theorem part_noScripts : (noScripts settings).part = .other := rfl

/-- The warning is not given at first. -/
theorem noScripts_not_mem_opening : noScripts settings ∉ opening settings := by
  simp [noScripts, opening]

/-- The warning is not given while a batch runs: it is none of a failed script. -/
theorem noScripts_not_mem_batchOf {host : Host} {world : World} :
    noScripts settings ∉ (batchOf host settings world).notices := by
  have hother : ∀ notice ∈ (batchOf host settings world).notices, notice ≠ noScripts settings := by
    refine collectAndRun_notices ?_ ?_ settings _ world
    · rintro event ⟨⟩
    · intro script failure heq
      have htext := congrArg String.toList (Notice.status.inj heq).2
      simp [String.toList_append] at htext
  exact fun hmem => hother _ hmem rfl

/-- A plan gives the warning exactly if there are no scripts. -/
theorem noScripts_mem_plan_iff {scripts : List Path} :
    noScripts settings ∈ plan settings scripts ↔ scripts = [] := by
  cases scripts with
  | nil => simp [plan]
  | cons script rest => simp [plan, noScripts]

/-- A summary gives the warning exactly if the tally is of no scripts. -/
theorem noScripts_mem_summary_iff {tally : Tally} :
    noScripts settings ∈ summary settings tally ↔ tally.total = 0 := by
  constructor
  · intro hmem
    by_contra htotal
    have hother : noScripts settings ∈ Notice.ofPart .other (summary settings tally) :=
      List.mem_filter.mpr ⟨hmem, decide_eq_true part_noScripts⟩
    rw [ofPart_summary settings htotal] at hother
    cases List.mem_singleton.mp hother
  · intro htotal
    rw [summary, if_pos htotal]
    exact List.mem_singleton_self _

/-- The warning is not given of a report. -/
theorem noScripts_not_mem_saveReport {world : World} {report : Option Path} {tally : Tally} :
    noScripts settings ∉ (saveReport world report tally).notices := by
  intro hmem
  rcases mem_saveReport hmem with heq | ⟨path, heq⟩
  · cases heq
  · cases heq

end Parts

/-- The failure that ends a command is said as an error. -/
theorem mem_diagnostics_iff {done : Progress Unit} {notice : Notice}
    (h : ∀ text, notice ≠ .status .error text) :
    notice ∈ diagnostics done ↔ notice ∈ done.notices := by
  rw [diagnostics]
  split
  · rfl
  · simp [h]

/-- A batch counts the collected scripts. -/
theorem total_of_batchOf {host : Host} {settings : Settings} {world : World} {scripts : List Path}
    {tally : Tally} (hcollect : collect settings world.fs = .ok scripts)
    (hbatch : (batchOf host settings world).value = .ok tally) : tally.total = scripts.length := by
  rw [batchOf, collectAndRun_of_ok hcollect] at hbatch
  obtain ⟨records, hrecords, rfl⟩ := map_eq_ok_iff.mp hbatch
  rw [Tally.total_ofRecords, length_of_runRecords hrecords]

/-- A command that comes to its scripts warns exactly if there are none. -/
theorem noScripts_mem_run_iff {host : Host} {request : Options.Request} {world : World}
    {scripts : List Path} (hvalid : request.settings.validate = .ok ())
    (hcollect : collect request.settings world.fs = .ok scripts) :
    noScripts request.settings ∈ diagnostics (run host request world) ↔ scripts = [] := by
  have hended := run_ended host request world
  rw [mem_diagnostics_iff (by rintro text ⟨⟩)]
  generalize run host request world = done at hended
  cases hended with
  | invalid hinvalid => cases hvalid.symm.trans hinvalid
  | uncollected _ hfailed => cases hcollect.symm.trans hfailed
  | listed _ hlisted =>
    cases hcollect.symm.trans hlisted
    have hevent : noScripts request.settings ≠
        .event (Collect.event request.settings.scriptsDir scripts.length) := by rintro ⟨⟩
    simp only [List.mem_append, List.mem_cons, noScripts_not_mem_opening, hevent,
      noScripts_mem_plan_iff, false_or]
  | stopped _ _ _ hbatch =>
    simp only [List.mem_append, noScripts_not_mem_opening, noScripts_not_mem_batchOf, or_self,
      false_iff]
    -- A batch of no scripts is not stopped.
    rintro rfl
    rw [batchOf, collectAndRun_of_ok hcollect] at hbatch
    cases hbatch
  | unsaved _ _ _ hbatch _ =>
    simp only [List.mem_append, noScripts_not_mem_opening, noScripts_not_mem_batchOf,
      noScripts_not_mem_saveReport, noScripts_mem_summary_iff,
      total_of_batchOf hcollect hbatch, List.length_eq_zero_iff, false_or, or_false]
  | judged _ _ _ hbatch _ =>
    simp only [List.mem_append, noScripts_not_mem_opening, noScripts_not_mem_batchOf,
      noScripts_not_mem_saveReport, noScripts_mem_summary_iff,
      total_of_batchOf hcollect hbatch, List.length_eq_zero_iff, false_or, or_false]

section Verbatim

variable {text : String}

/-- Nothing is printed as it is at first. -/
theorem verbatim_not_mem_opening (settings : Settings) : .verbatim text ∉ opening settings := by
  simp [opening]

/-- Nothing is printed as it is while a batch runs. -/
theorem verbatim_not_mem_batchOf (host : Host) (settings : Settings) (world : World) :
    .verbatim text ∉ (batchOf host settings world).notices := by
  intro hmem
  cases collectAndRun_isRunning settings _ world _ hmem

/-- Nothing is printed as it is in a plan. -/
theorem verbatim_not_mem_plan (settings : Settings) (scripts : List Path) :
    .verbatim text ∉ plan settings scripts := by
  rw [plan]
  split <;> simp [noScripts]

/-- Nothing is printed as it is in a summary. -/
theorem verbatim_not_mem_summary (settings : Settings) (tally : Tally) :
    .verbatim text ∉ summary settings tally := by
  intro hmem
  by_cases htotal : tally.total = 0
  · rw [summary, if_pos htotal] at hmem
    cases List.mem_singleton.mp hmem
  · have hother : .verbatim text ∈ Notice.ofPart .other (summary settings tally) :=
      List.mem_filter.mpr ⟨hmem, rfl⟩
    rw [ofPart_summary settings htotal] at hother
    cases List.mem_singleton.mp hother

/-- Only a report is printed as it is when a report is written. -/
theorem exists_report_of_mem_saveReport {world : World} {report : Option Path} {tally : Tally}
    (h : .verbatim text ∈ (saveReport world report tally).notices) :
    ∃ records, text = Report.render records := by
  rcases mem_saveReport h with heq | ⟨path, heq⟩
  · exact ⟨tally.records, Notice.verbatim.inj heq⟩
  · cases heq

/-- Only its report is printed as it is by a command. -/
theorem exists_report_of_mem_diagnostics {host : Host} {request : Options.Request} {world : World}
    (h : .verbatim text ∈ diagnostics (run host request world)) :
    ∃ records, text = Report.render records := by
  have hended := run_ended host request world
  rw [mem_diagnostics_iff (by rintro text ⟨⟩)] at h
  generalize run host request world = done at h hended
  cases hended with
  | invalid _ => cases h
  | uncollected _ _ => exact absurd h (verbatim_not_mem_opening _)
  | listed _ _ _ =>
    simp [verbatim_not_mem_opening, verbatim_not_mem_plan] at h
  | stopped _ _ _ _ =>
    simp [verbatim_not_mem_opening, verbatim_not_mem_batchOf] at h
  | unsaved _ _ _ _ _ =>
    simp only [List.mem_append, verbatim_not_mem_opening, verbatim_not_mem_batchOf,
      verbatim_not_mem_summary, false_or] at h
    exact exists_report_of_mem_saveReport h
  | judged _ _ _ _ _ =>
    simp only [List.mem_append, verbatim_not_mem_opening, verbatim_not_mem_batchOf,
      verbatim_not_mem_summary, false_or] at h
    exact exists_report_of_mem_saveReport h

end Verbatim

/-- The settings that a command line asks for agree with what is collected: the suffix that they
show is the one that is searched for, so what is printed of missing scripts is true. -/
theorem accepted_settings_collect_shown_suffix (environment : Options.Environment)
    (arguments : List Bytes) (request : Options.Request)
    (h : Options.parse environment arguments = .ok request) :
    let settings := request.settings
    (settings.scriptsDir ≠ [] ∧ settings.outDir ≠ [] ∧ settings.executable ≠ [] ∧
      settings.extension.toList.head? ≠ some '.') ∧
    settings.validate ≠ .error (.invalidArgument "--exe must not be empty") ∧
    (∃ entries, Options.Written entries arguments) ∧
    (∀ entries, Options.Written entries arguments →
      ((∃ failure, settings.validate = .error failure) ↔
        Options.bareExtension entries = [] ∨ Path.slash ∈ Options.bareExtension entries ∨
          0x5C ∈ Options.bareExtension entries)) ∧
    Utf8.encode settings.suffix = Collect.suffix settings.extension ∧
    ∀ (host : Host) (world : World) (scripts : List Path), settings.validate = .ok () →
      collect settings world.fs = .ok scripts →
      ∃ here node, world.fs.locate settings.scriptsDir = .ok (here, node) ∧
        node.content = .directory ∧ ∀ (filter : Log.Filter) (color : Bool),
        (Style.paint color .boldYellow "[WARN]" ++ " " ++ ("No '*" ++ settings.suffix ++
            "' scripts found in '" ++ Path.text settings.scriptsDir ++ "'") ++ "\n" ∈
            (diagnostics (run host request world)).map (Notice.render filter color) ↔
          ¬∃ name, Path.isName name = true ∧ (world.fs.node? (name :: here)).isSome = true ∧
            Utf8.encode settings.suffix <:+ name ∧
            ∃ location file, world.fs.locate (Path.join settings.scriptsDir name) =
              .ok (location, file) ∧ file.content.isRegular = true) := by
  intro settings
  have hsound : settings.Sound := Options.sound_of_parse h
  refine ⟨⟨hsound.scriptsDir, hsound.outDir_ne_nil, hsound.executable, hsound.extension⟩,
    hsound.validate_ne_executable, ?_,
    fun entries => Options.exists_validate_eq_error_iff_of_parse h, hsound.encode_suffix, ?_⟩
  · obtain ⟨entries, _, hwritten, -⟩ := Options.exists_written_of_parse h
    exact ⟨entries, hwritten⟩
  · intro host world scripts hvalid hcollect
    obtain ⟨here, node, hdir, hnode, hnone⟩ := exists_locate_of_collect hcollect
    refine ⟨here, node, hdir, hnode, fun filter color =>
      (Notice.warning_mem_map_render_iff fun text => exists_report_of_mem_diagnostics).trans
        ((noScripts_mem_run_iff hvalid hcollect).trans ?_)⟩
    rw [hnone, hsound.encode_suffix, Collect.suffix_eq]
    refine not_congr (exists_congr fun name => ?_)
    constructor
    · rintro ⟨hname, hentry, hends, hregular⟩
      exact ⟨hname, hentry, hends, hregular⟩
    · rintro ⟨hname, hentry, hends, hregular⟩
      exact ⟨hname, hentry, hends, hregular⟩

/-- A working directory whose only entry is a directory with the name of a script. -/
def nestedDirectory : FileSystem where
  nodes := [([], ⟨.directory, 0o755, 0⟩), ([Path.ofText "tree.boink"], ⟨.directory, 0o755, 5⟩)]
  distinct := by decide
  cwd := []
  now := 9
  privileged := true

/-- A directory with the name of a script is none: the extension that is given with dots in front is
taken, and the command warns with the suffix that the directory has. -/
theorem accepted_settings_collect_shown_suffix_nested :
    let environment : Options.Environment := { dir := some (Path.ofText ".") }
    let arguments := [Utf8.encode "--extension=..boink"]
    let request : Options.Request := ⟨{ scriptsDir := Path.ofText "." }, none⟩
    Options.parse environment arguments = .ok request ∧
      "[WARN] No '*.boink' scripts found in '.'\n" ∈
        (diagnostics (run bareHost request ⟨nestedDirectory, {}⟩)).map
          (Notice.render Log.Filter.standard false) := by
  intro environment arguments request
  have hparse : Options.parse environment arguments = .ok request :=
    eq_ok_of_toOption (by decide +kernel)
  have hvalid : request.settings.validate = .ok () := eq_ok_of_toOption (by decide +kernel)
  have hcollect : collect request.settings nestedDirectory = .ok [] := by cbv
  have hroot : nestedDirectory.locate (Path.ofText ".") = .ok ([], ⟨.directory, 0o755, 0⟩) := by cbv
  have htree : nestedDirectory.locate (Path.ofText "./tree.boink") =
      .ok ([Path.ofText "tree.boink"], ⟨.directory, 0o755, 5⟩) := by cbv
  obtain ⟨-, -, -, -, -, hwarns⟩ :=
    accepted_settings_collect_shown_suffix environment arguments request hparse
  obtain ⟨here, node, hdir, -, hwarns⟩ := hwarns bareHost ⟨nestedDirectory, {}⟩ [] hvalid hcollect
  refine ⟨hparse, (hwarns Log.Filter.standard false).mpr ?_⟩
  rintro ⟨name, -, hentry, -, location, file, hlocate, hregular⟩
  cases hroot.symm.trans hdir
  have hname : name = Path.ofText "tree.boink" := by
    have hlisted := (FileSystem.isSome_node?_iff ..).mp hentry
    simpa [nestedDirectory] using hlisted
  subst hname
  cases htree.symm.trans hlocate
  cases hregular

end Generate

end Fixtures
