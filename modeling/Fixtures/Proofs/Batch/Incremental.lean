import Mathlib
import Fixtures.Proofs.Batch.Accounting
import Fixtures.Proofs.Collect

/-!
# Running a batch again

A batch that leaves out current parse trees is run twice in a row, with a parser that keeps to its
own script. Whether a script is left out is decided at its turn, but nothing that happens before its
turn changes the decision, and nothing that happens after it makes its parse tree older or newer. So
the second batch attempts the scripts that failed in the first one, and no others.

The two parsers need not be the same. Both batches end with the same failure if no scripts can be
collected. Otherwise both come through with a record for each script, and the records of the second
one show every script as left out that did not fail in the first one. After a batch without failures
the second one attempts nothing and changes nothing.
-/

namespace Fixtures

/-- A script that was found has a time. -/
theorem Collect.modified?_of_mem {fs : FileSystem} {dir : Path} {ending : Bytes}
    {found : List Path} (h : scripts fs dir ending = .ok found) {script : Path}
    (hmem : script ∈ found) : ∃ source, fs.modified? script = some source := by
  have hcollected := scripts_collected fs dir ending
  rw [h] at hcollected
  cases hcollected with
  | found hdir hnode hread =>
    obtain ⟨name, hname, rfl⟩ := List.mem_map.mp hmem
    have hscript : isScript fs dir ending name = true := (List.mem_filter.mp hname).2
    rw [isScript, Bool.and_eq_true, FileSystem.isFile, Option.any_eq_true] at hscript
    obtain ⟨-, node, hnode, -⟩ := hscript
    exact ⟨node.modified, by rw [FileSystem.modified?, hnode, Option.map_some]⟩

namespace Batch

/-- What an invocation of a parser that keeps to its own script does to the files. The times of
scripts and parse trees are compared as they are found through links; a path that leads nowhere has
no time. -/
structure Careful (settings : Settings) (scripts : List Path) (fs : FileSystem) (script : Path)
    (answer : Except Failure Invocation) (after : FileSystem) : Prop where
  /-- A success leaves a parse tree that is not older than its script. -/
  tree : ∀ invocation, answer = .ok invocation → invocation.succeeded = true →
    ∃ product, after.modified? (Artifact.path script settings.outDir) = some product ∧
      ∀ source, after.modified? script = some source → source ≤ product
  /-- A failure changes nothing. -/
  idle : (⟨script, settings.outDir, answer⟩ : Attempt).failed = true → after = fs
  /-- No script appears or goes away. -/
  kept : collect settings after = .ok scripts
  /-- No script is changed. -/
  sources : ∀ other ∈ scripts, after.modified? other = fs.modified? other
  /-- No parse tree of another script is changed. -/
  trees : ∀ other ∈ scripts, other ≠ script →
    after.modified? (Artifact.path other settings.outDir) =
      fs.modified? (Artifact.path other settings.outDir)

/-- A parser that keeps to its own script, for every script that is found in a file system of some
class. It never leads out of that class; the class may be that of all file systems. -/
structure Diligent (settings : Settings) (within : FileSystem → Prop) (parser : Parser) :
    Prop where
  /-- Each invocation keeps to its own script. -/
  careful : ∀ fs, within fs → ∀ scripts, collect settings fs = .ok scripts → ∀ script ∈ scripts,
    Careful settings scripts fs script (parser.parse fs script settings.outDir).1
      (parser.parse fs script settings.outDir).2
  /-- No invocation leads out of the class. -/
  stays : ∀ fs, within fs → ∀ scripts, collect settings fs = .ok scripts → ∀ script ∈ scripts,
    within (parser.parse fs script settings.outDir).2

variable {settings : Settings} {within : FileSystem → Prop} {parser : Parser}

/-- Where parse trees are looked at, a script is left out exactly if its parse tree is current. -/
theorem skips_eq_isUpToDate (h : settings.skipUpToDate = true) (fs : FileSystem) (script : Path) :
    skips settings fs script =
      fs.isUpToDate script (Artifact.path script settings.outDir) := by
  rw [skips, h, Bool.true_and]

namespace Careful

variable {scripts : List Path} {fs after : FileSystem} {script : Path}
  {answer : Except Failure Invocation}

/-- Other scripts are left out as before. -/
theorem skips_other (h : Careful settings scripts fs script answer after) {other : Path}
    (hmem : other ∈ scripts) (hne : other ≠ script) :
    skips settings after other = skips settings fs other := by
  rw [skips, skips, FileSystem.isUpToDate, FileSystem.isUpToDate, h.sources other hmem,
    h.trees other hmem hne]

/-- A script that was parsed is left out from then on. -/
theorem skips_self (h : Careful settings scripts fs script answer after)
    (hskip : settings.skipUpToDate = true) (hmem : script ∈ scripts) {invocation : Invocation}
    (hanswer : answer = .ok invocation) (hsucceeded : invocation.succeeded = true) :
    skips settings after script = true := by
  obtain ⟨product, hproduct, hnewer⟩ := h.tree invocation hanswer hsucceeded
  obtain ⟨source, hsource⟩ := Collect.modified?_of_mem h.kept hmem
  rw [skips_eq_isUpToDate hskip, FileSystem.isUpToDate, hsource, hproduct]
  exact decide_eq_true (hnewer source hsource)

end Careful

/-- What one script comes to in a batch that leaves out current parse trees. -/
structure Settled (settings : Settings) (scripts : List Path) (fs : FileSystem) (script : Path)
    (record : Record) (calls : List Attempt) (after : FileSystem) : Prop where
  /-- The record is that of the script. -/
  script_eq : record.script = script
  /-- The script is attempted unless it is left out. -/
  calls_eq : calls.map Attempt.script = if skips settings fs script then [] else [script]
  /-- The record says whether it is left out. -/
  skipped_iff : record.outcome = .skipped ↔ skips settings fs script = true
  /-- It is left out from then on, unless it failed. -/
  skips_after : skips settings after script = !record.failed
  /-- The scripts that are found stay the same. -/
  kept : collect settings after = .ok scripts
  /-- Other scripts are left out as before. -/
  skips_other : ∀ other ∈ scripts, other ≠ script →
    skips settings after other = skips settings fs other
  /-- Nothing changes if it is left out. -/
  idle : skips settings fs script = true → after = fs

/-- What a script comes to if its parser keeps to it. -/
theorem Accounted.settled {fs after : FileSystem} {script : Path} {record : Record}
    {calls : List Attempt} (h : Accounted settings parser fs script record calls after)
    (hdiligent : Diligent settings within parser) (hfs : within fs)
    (hskip : settings.skipUpToDate = true) {scripts : List Path}
    (hscripts : collect settings fs = .ok scripts) (hmem : script ∈ scripts) :
    Settled settings scripts fs script record calls after := by
  have hcareful := hdiligent.careful fs hfs scripts hscripts script hmem
  have hdue_of : ¬(settings.skipUpToDate = true ∧
      fs.isUpToDate script (Artifact.path script settings.outDir) = true) →
      skips settings fs script = false := by
    intro hdue
    rw [← skips_eq_true_iff] at hdue
    simpa using hdue
  cases h with
  | skipped hasked hcurrent =>
    have hskips := (skips_eq_true_iff ..).mpr ⟨hasked, hcurrent⟩
    exact ⟨rfl, by simp [hskips], by simp [hskips], hskips, hscripts, fun _ _ _ => rfl,
      fun _ => rfl⟩
  | @succeeded invocation _ hdue hparse hcode =>
    rw [hparse] at hcareful
    have hnot := hdue_of hdue
    have hsucceeded : invocation.succeeded = true := by simp [Invocation.succeeded, hcode]
    exact ⟨rfl, by simp [hnot], by simp [hnot], hcareful.skips_self hskip hmem rfl hsucceeded,
      hcareful.kept, fun other => hcareful.skips_other, by simp [hnot]⟩
  | @failed invocation _ hdue hparse hcode =>
    rw [hparse] at hcareful
    have hnot := hdue_of hdue
    have hfailed : (⟨script, settings.outDir, .ok invocation⟩ : Attempt).failed = true := by
      simp [Attempt.failed, Attempt.failure?, Invocation.succeeded, hcode]
    obtain rfl := hcareful.idle hfailed
    exact ⟨rfl, by simp [hnot], by simp [hnot], hnot, hcareful.kept, fun _ _ _ => rfl, fun _ => rfl⟩
  | notStarted hdue hparse =>
    rw [hparse] at hcareful
    have hnot := hdue_of hdue
    obtain rfl := hcareful.idle rfl
    exact ⟨rfl, by simp [hnot], by simp [hnot], hnot, hcareful.kept, fun _ _ _ => rfl, fun _ => rfl⟩

/-- No script leads out of the class of its parser. -/
theorem Accounted.stays {fs after : FileSystem} {script : Path} {record : Record}
    {calls : List Attempt} (h : Accounted settings parser fs script record calls after)
    (hdiligent : Diligent settings within parser) (hfs : within fs) {scripts : List Path}
    (hscripts : collect settings fs = .ok scripts) (hmem : script ∈ scripts) : within after := by
  have hstays := hdiligent.stays fs hfs scripts hscripts script hmem
  cases h with
  | skipped _ _ => exact hfs
  | succeeded _ hparse _ => rwa [hparse] at hstays
  | failed _ hparse _ => rwa [hparse] at hstays
  | notStarted _ hparse => rwa [hparse] at hstays

/-- What a list of scripts comes to in a batch that leaves out current parse trees. -/
structure AllSettled (settings : Settings) (scripts : List Path) (fs : FileSystem)
    (todo : List Path) (records : List Record) (calls : List Attempt) (after : FileSystem) :
    Prop where
  /-- There is a record for each script. -/
  scripts_eq : records.map Record.script = todo
  /-- The scripts are attempted that are not left out at the start. -/
  calls_eq : calls.map Attempt.script = todo.filter fun script => !skips settings fs script
  /-- The records say which ones are left out. -/
  skipped_iff : ∀ record ∈ records,
    (record.outcome = .skipped ↔ skips settings fs record.script = true)
  /-- Those that did not fail are left out at the end. -/
  skips_after : ∀ record ∈ records, skips settings after record.script = !record.failed
  /-- The scripts that are found stay the same. -/
  kept : collect settings after = .ok scripts
  /-- Other scripts are left out as before. -/
  skips_other : ∀ other ∈ scripts, other ∉ todo →
    skips settings after other = skips settings fs other
  /-- Nothing changes if all of them are left out. -/
  idle : (∀ script ∈ todo, skips settings fs script = true) → after = fs

/-- One script more. No script is given twice, so what becomes of the first one has no influence on
whether the others are left out, and the others do not change what the first one left. -/
theorem Settled.cons {scripts rest : List Path} {fs middle after : FileSystem} {script : Path}
    {record : Record} {records : List Record} {calls others : List Attempt}
    (hfirst : Settled settings scripts fs script record calls middle)
    (hrest : AllSettled settings scripts middle rest records others after)
    (hmem : script ∈ scripts) (hsub : ∀ other ∈ rest, other ∈ scripts) (hnew : script ∉ rest) :
    AllSettled settings scripts fs (script :: rest) (record :: records) (calls ++ others)
      after := by
  have hsame : ∀ other ∈ rest, skips settings middle other = skips settings fs other := by
    intro other hother
    exact hfirst.skips_other other (hsub other hother) fun heq => hnew (heq ▸ hother)
  have hsameRecord : ∀ other ∈ records,
      skips settings middle other.script = skips settings fs other.script := by
    intro other hother
    exact hsame other.script (hrest.scripts_eq ▸ List.mem_map_of_mem hother)
  constructor
  · rw [List.map_cons, hfirst.script_eq, hrest.scripts_eq]
  · have hfilter : rest.filter (fun other => !skips settings middle other) =
        rest.filter fun other => !skips settings fs other :=
      List.filter_congr fun other hother => by rw [hsame other hother]
    rw [List.map_append, hfirst.calls_eq, hrest.calls_eq, hfilter, List.filter_cons]
    cases skips settings fs script <;> simp
  · intro other hother
    rcases List.mem_cons.mp hother with rfl | hother
    · rw [hfirst.script_eq]
      exact hfirst.skipped_iff
    · rw [← hsameRecord other hother]
      exact hrest.skipped_iff other hother
  · intro other hother
    rcases List.mem_cons.mp hother with rfl | hother
    · rw [hfirst.script_eq, hrest.skips_other script hmem hnew, hfirst.skips_after]
    · exact hrest.skips_after other hother
  · exact hrest.kept
  · intro other hother hnone
    rw [List.mem_cons, not_or] at hnone
    rw [hrest.skips_other other hother hnone.2, hfirst.skips_other other hother hnone.1]
  · intro hall
    have hmiddle := hfirst.idle (hall script List.mem_cons_self)
    rw [← hmiddle]
    refine hrest.idle fun other hother => ?_
    rw [hsame other hother]
    exact hall other (List.mem_cons_of_mem script hother)

/-- What a batch comes to if its parser keeps to its own scripts. -/
theorem runRecords_allSettled (hdiligent : Diligent settings within parser)
    (hskip : settings.skipUpToDate = true) (hpolicy : settings.onFailure ≠ .abort)
    {scripts todo : List Path} (hnodup : todo.Nodup) (hsub : ∀ script ∈ todo, script ∈ scripts)
    {world : World} (hwriter : world.writer.Reliable) (hfs : within world.fs)
    (hscripts : collect settings world.fs = .ok scripts) :
    within (runRecords settings parser world todo).world.fs ∧
      ∃ records, (runRecords settings parser world todo).value = .ok records ∧
        AllSettled settings scripts world.fs todo records
          (runRecords settings parser world todo).attempts
          (runRecords settings parser world todo).world.fs := by
  induction todo generalizing world with
  | nil =>
    exact ⟨hfs, [], rfl, rfl, rfl, by simp, by simp, hscripts, fun _ _ _ => rfl, fun _ => rfl⟩
  | cons script rest ih =>
    obtain ⟨hnew, hnodup⟩ := List.nodup_cons.mp hnodup
    have hmem := hsub script List.mem_cons_self
    have hsubRest : ∀ other ∈ rest, other ∈ scripts :=
      fun other hother => hsub other (List.mem_cons_of_mem script hother)
    obtain ⟨record, hvalue, haccounted⟩ := process_accounted hpolicy hwriter parser script
    have hfirst := haccounted.settled hdiligent hfs hskip hscripts hmem
    obtain ⟨hwithin, records, hrecords, hrest⟩ :=
      ih hnodup hsubRest (process_reliable settings parser hwriter script)
        (haccounted.stays hdiligent hfs hscripts hmem) hfirst.kept
    rw [runRecords_cons_of_ok hvalue]
    refine ⟨hwithin, record :: records, ?_, hfirst.cons hrest hmem hsubRest hnew⟩
    rw [Progress.followedBy, hrecords]
    rfl

/-- The same for a collected batch. -/
theorem collectAndRun_allSettled (hdiligent : Diligent settings within parser)
    (hskip : settings.skipUpToDate = true) (hpolicy : settings.onFailure ≠ .abort) (world : World)
    (hwriter : world.writer.Reliable) (hfs : within world.fs) {scripts : List Path}
    (hscripts : collect settings world.fs = .ok scripts) :
    within (collectAndRun settings parser world).world.fs ∧
      ∃ tally, (collectAndRun settings parser world).value = .ok tally ∧
        (tally.hasFailures = true ↔ ∃ record ∈ tally.records, record.failed = true) ∧
        AllSettled settings scripts world.fs scripts tally.records
          (collectAndRun settings parser world).attempts
          (collectAndRun settings parser world).world.fs := by
  obtain ⟨hwithin, records, hrecords, hall⟩ := runRecords_allSettled hdiligent hskip hpolicy
    (Collect.nodup_of_scripts hscripts) (fun _ hmem => hmem) hwriter hfs hscripts
  rw [collectAndRun_of_ok hscripts]
  refine ⟨hwithin, .ofRecords records, by rw [hrecords, Except.map], ?_, ?_⟩
  · rw [Tally.records_ofRecords]
    exact Tally.hasFailures_ofRecords_iff records
  · rwa [Tally.records_ofRecords]

/-- Running a batch that goes on after failures again retries exactly the scripts that failed, in
the same order. -/
theorem second_run_retries_the_failed (settings : Settings) (within : FileSystem → Prop)
    (parser parser' : Parser) (fs : FileSystem) (writer writer' : Writer)
    (hskip : settings.skipUpToDate = true)
    (hpolicy : settings.onFailure = .warn ∨ settings.onFailure = .ignore)
    (hparser : Diligent settings within parser) (hparser' : Diligent settings within parser')
    (hfs : within fs) (hwriter : writer.Reliable) (hwriter' : writer'.Reliable) :
    let first := collectAndRun settings parser ⟨fs, writer⟩
    let second := collectAndRun settings parser' ⟨first.world.fs, writer'⟩
    (∀ failure, collect settings fs = .error failure →
      first.value = .error failure ∧ second.value = .error failure ∧ second.attempts = [] ∧
        second.world.fs = fs) ∧
    ∀ scripts, collect settings fs = .ok scripts →
      ∃ tally tally', first.value = .ok tally ∧ second.value = .ok tally' ∧
        tally.records.map Record.script = scripts ∧ tally'.records.map Record.script = scripts ∧
        second.attempts.map Attempt.script =
          (tally.records.filter Record.failed).map Record.script ∧
        (∀ record ∈ tally.records, ∀ record' ∈ tally'.records, record'.script = record.script →
          (record'.outcome = .skipped ↔ record.failed = false)) ∧
        (tally.hasFailures = false → second.attempts = [] ∧ second.world.fs = first.world.fs) := by
  intro first second
  have hgoes : settings.onFailure ≠ .abort := by
    rcases hpolicy with h | h <;> rw [h] <;> decide
  constructor
  · intro failure hfailure
    have hfirst : first = ⟨.error failure, ⟨fs, writer⟩, [], []⟩ := collectAndRun_of_error hfailure
    have hsecond : second = ⟨.error failure, ⟨fs, writer'⟩, [], []⟩ := by
      simp only [second, hfirst]
      exact collectAndRun_of_error hfailure
    rw [hfirst, hsecond]
    exact ⟨rfl, rfl, rfl, rfl⟩
  · intro scripts hscripts
    obtain ⟨hwithin, tally, hvalue, hfailures, hall⟩ :=
      collectAndRun_allSettled hparser hskip hgoes ⟨fs, writer⟩ hwriter hfs hscripts
    obtain ⟨-, tally', hvalue', -, hall'⟩ :=
      collectAndRun_allSettled hparser' hskip hgoes ⟨first.world.fs, writer'⟩ hwriter' hwithin
        hall.kept
    have hcalls : second.attempts.map Attempt.script =
        (tally.records.filter Record.failed).map Record.script := by
      have hsame : ∀ record ∈ tally.records,
          (!skips settings first.world.fs record.script) = record.failed := by
        intro record hrecord
        rw [hall.skips_after record hrecord, Bool.not_not]
      rw [hall'.calls_eq, ← hall.scripts_eq, List.filter_map]
      exact congrArg _ (List.filter_congr hsame)
    refine ⟨tally, tally', hvalue, hvalue', hall.scripts_eq, hall'.scripts_eq, hcalls, ?_, ?_⟩
    · intro record hrecord record' hrecord' hsame
      rw [hall'.skipped_iff record' hrecord', hsame, hall.skips_after record hrecord]
      simp
    · intro hnone
      have hcalm : ∀ record ∈ tally.records, record.failed = false := by
        intro record hrecord
        by_contra hfailed
        rw [hfailures.mpr ⟨record, hrecord, by simpa using hfailed⟩] at hnone
        cases hnone
      have hskipped : ∀ script ∈ scripts, skips settings first.world.fs script = true := by
        intro script hscript
        rw [← hall.scripts_eq] at hscript
        obtain ⟨record, hrecord, rfl⟩ := List.mem_map.mp hscript
        rw [hall.skips_after record hrecord, hcalm record hrecord, Bool.not_false]
      have hnothing : tally.records.filter Record.failed = [] :=
        List.filter_eq_nil_iff.mpr fun record hrecord => by simp [hcalm record hrecord]
      refine ⟨?_, hall'.idle hskipped⟩
      rw [hnothing, List.map_nil, List.map_eq_nil_iff] at hcalls
      exact hcalls

/-- Settings for the working directory under which current parse trees are left out. -/
def thriftySettings : Settings := { scriptsDir := Path.ofText ".", skipUpToDate := true }

/-- The two scripts with the parse tree of the first one. -/
def oneTree : FileSystem := twoScripts.put [Path.ofText "a.json"] ⟨.file [], 0o644, 9⟩

/-- A parser that writes the parse tree of `a.boink` and rejects every other script. -/
def choosyParser : Parser where
  parse fs script _ :=
    if script = Path.ofText "./a.boink" then
      (.ok ⟨"p", some 0, [], []⟩, fs.put [Path.ofText "a.json"] ⟨.file [], 0o644, 9⟩)
    else (.ok ⟨"p", some 1, [], []⟩, fs)

/-- The file systems that a batch of the two scripts goes through. -/
def OneTreeAtMost (fs : FileSystem) : Prop := fs = twoScripts ∨ fs = oneTree

namespace OneTreeAtMost

variable {fs : FileSystem}

theorem collect (h : OneTreeAtMost fs) :
    collect thriftySettings fs = .ok [Path.ofText "./a.boink", Path.ofText "./b.boink"] := by
  rcases h with rfl | rfl <;> cbv

theorem parse_first (h : OneTreeAtMost fs) :
    choosyParser.parse fs (Path.ofText "./a.boink") thriftySettings.outDir =
      (.ok ⟨"p", some 0, [], []⟩, oneTree) := by
  rcases h with rfl | rfl <;> rfl

theorem modified?_script (h : OneTreeAtMost fs) {script : Path}
    (hmem : script ∈ [Path.ofText "./a.boink", Path.ofText "./b.boink"]) :
    fs.modified? script = some 5 := by
  rcases h with rfl | rfl <;> rcases List.mem_pair.mp hmem with rfl | rfl <;> cbv

theorem modified?_second (h : OneTreeAtMost fs) :
    fs.modified? (Artifact.path (Path.ofText "./b.boink") thriftySettings.outDir) = none := by
  rcases h with rfl | rfl <;> cbv

end OneTreeAtMost

/-- The parser that rejects all scripts but one keeps to its own script. -/
theorem choosyParser_diligent : Diligent thriftySettings OneTreeAtMost choosyParser := by
  have hmade : oneTree.modified? (Artifact.path (Path.ofText "./a.boink") thriftySettings.outDir) =
      some 9 := by cbv
  have hafter : OneTreeAtMost oneTree := .inr rfl
  constructor
  · intro fs hfs scripts hscripts script hscript
    cases hfs.collect.symm.trans hscripts
    rcases List.mem_pair.mp hscript with rfl | rfl
    · rw [hfs.parse_first]
      refine ⟨fun _ _ _ => ⟨9, hmade, ?_⟩, fun hfailed => ?_, hafter.collect, ?_, ?_⟩
      · intro source hsource
        cases hsource.symm.trans (hafter.modified?_script hscript)
        decide
      · cases hfailed
      · intro other hother
        rw [hafter.modified?_script hother, hfs.modified?_script hother]
      · intro other hother hne
        rcases List.mem_pair.mp hother with rfl | rfl
        · exact absurd rfl hne
        · rw [hafter.modified?_second, hfs.modified?_second]
    · refine ⟨?_, fun _ => rfl, hscripts, fun _ _ => rfl, fun _ _ _ => rfl⟩
      rintro invocation ⟨⟩ hsucceeded
      cases hsucceeded
  · intro fs hfs scripts hscripts script hscript
    cases hfs.collect.symm.trans hscripts
    rcases List.mem_pair.mp hscript with rfl | rfl
    · rw [hfs.parse_first]
      exact hafter
    · exact hfs

/-- Of two scripts the second is rejected, so only that one is attempted again. -/
theorem second_run_retries_the_failed_of_two :
    let first := collectAndRun thriftySettings choosyParser ⟨twoScripts, {}⟩
    let second := collectAndRun thriftySettings choosyParser ⟨first.world.fs, {}⟩
    second.attempts.map Attempt.script = [Path.ofText "./b.boink"] := by
  intro first second
  have hfs : OneTreeAtMost twoScripts := .inl rfl
  have hreliable : Writer.Reliable {} := (Writer.reliable_iff _).mpr ⟨rfl, rfl⟩
  obtain ⟨-, hruns⟩ := second_run_retries_the_failed thriftySettings OneTreeAtMost choosyParser
    choosyParser twoScripts {} {} rfl (.inl rfl) choosyParser_diligent choosyParser_diligent hfs
    hreliable hreliable
  obtain ⟨tally, -, hvalue, -, -, -, hattempts, -⟩ := hruns _ hfs.collect
  have hdue : skips thriftySettings (⟨twoScripts, {}⟩ : World).fs (Path.ofText "./a.boink") =
      false := by cbv
  have hdue' : skips thriftySettings (⟨oneTree, {}⟩ : World).fs (Path.ofText "./b.boink") =
      false := by cbv
  have hparsed := process_finished thriftySettings hdue hfs.parse_first rfl
  have hrejected : ∃ record, (runRecords thriftySettings choosyParser ⟨oneTree, {}⟩
      [Path.ofText "./b.boink"]).value = .ok [record] ∧ record.failed = true ∧
      record.script = Path.ofText "./b.boink" := by
    have hsecond : choosyParser.parse (⟨oneTree, {}⟩ : World).fs (Path.ofText "./b.boink")
        thriftySettings.outDir = (.ok ⟨"p", some 1, [], []⟩, oneTree) := rfl
    rw [runRecords_singleton, process_finished thriftySettings hdue' hsecond rfl]
    exact ⟨_, rfl, rfl, rfl⟩
  obtain ⟨record, hrecord, hfailed, hscript⟩ := hrejected
  have hfirst : (process thriftySettings choosyParser ⟨twoScripts, {}⟩
      (Path.ofText "./a.boink")).value = .ok ⟨Path.ofText "./a.boink",
        Artifact.path (Path.ofText "./a.boink") thriftySettings.outDir, some 0, .success⟩ := by
    rw [hparsed]
    rfl
  have hrecords := runRecords_cons_value_eq_ok_iff.mpr
    ⟨_, [record], hfirst, by rw [hparsed]; exact hrecord, rfl⟩
  rw [collectAndRun_of_ok hfs.collect, hrecords] at hvalue
  cases hvalue
  rw [hattempts, Tally.records_ofRecords, List.filter_cons_of_neg (by simp [Record.failed]),
    List.filter_cons_of_pos hfailed, List.filter_nil, List.map_singleton, hscript]

end Batch

end Fixtures
