import Mathlib
import Fixtures.Proofs.Batch.Accounting
import Fixtures.Proofs.Collect
import Fixtures.Proofs.Notice
import Fixtures.Proofs.Computation

/-!
# What a batch says

A batch says at most one thing of each script it comes to. A success is worth a line if its parse
tree is not there right after the call, whatever earlier and later calls do; a failure is worth one
under the policy that warns. All else that a batch notes is not shown by default, so its text is
what it says of one script after another.

Nothing is said of a script that is left out. A success without a parse tree counts as a success all
the same, and its line names script and parse tree; the warning of a failure has the recorded
reason. Of the scripts behind one that ends the batch nothing is said.
-/

namespace Fixtures

/-- A path leads to something exactly if a node is found at its end. -/
theorem FileSystem.pathExists_iff (fs : FileSystem) (path : Path) :
    fs.pathExists path = true ↔ ∃ node here, fs.locate path = .ok (here, node) := by
  rw [pathExists, Option.isSome_iff_exists]
  simp only [find?_eq_some_iff]

namespace Batch

/-- The line for a success that left no parse tree. -/
def treelessLine (script artifact : Path) : String :=
  "<TIME>  WARN parser succeeded but wrote no parse tree script=" ++ Path.text script ++
    " artifact=" ++ Path.text artifact ++ "\n"

/-- The line that warns of a failed script. -/
def failureLine (color : Bool) (script : Path) (reason : String) : String :=
  Style.paint color .boldYellow "[WARN]" ++ " Failed to parse " ++ Path.text script ++ ": " ++
    reason ++ "\n"

/-- What a script comes to in the file system it finds: its outcome or the failure that ends the
batch, the file system it leaves, and what is said of it. -/
inductive Diagnosis (settings : Settings) (parser : Parser) (color : Bool) (fs : FileSystem)
    (script : Path) : Except Failure Outcome → FileSystem → String → Prop where
  /-- Its parse tree is current and such scripts are left out. -/
  | current (hskip : skips settings fs script = true) :
      Diagnosis settings parser color fs script (.ok .skipped) fs ""
  /-- Its parser exited with zero, and then the parse tree is there. -/
  | planted {invocation : Invocation} {after : FileSystem} {here : Location} {node : Node}
      (hdue : skips settings fs script = false)
      (hparse : parser.parse fs script settings.outDir = (.ok invocation, after))
      (hcode : invocation.exitCode = some 0)
      (htree : after.locate (Artifact.path script settings.outDir) = .ok (here, node)) :
      Diagnosis settings parser color fs script (.ok .success) after ""
  /-- Its parser exited with zero, and then nothing is there. -/
  | treeless {invocation : Invocation} {after : FileSystem}
      (hdue : skips settings fs script = false)
      (hparse : parser.parse fs script settings.outDir = (.ok invocation, after))
      (hcode : invocation.exitCode = some 0)
      (hnone : ∀ found, after.locate (Artifact.path script settings.outDir) ≠ .ok found) :
      Diagnosis settings parser color fs script (.ok .success) after
        (treelessLine script (Artifact.path script settings.outDir))
  /-- Its call failed, and failures are warned of. -/
  | warned {answer : Except Failure Invocation} {after : FileSystem} {failure : Failure}
      (hdue : skips settings fs script = false)
      (hparse : parser.parse fs script settings.outDir = (answer, after))
      (hfailed : Attempt.failure? ⟨script, settings.outDir, answer⟩ = some failure)
      (hpolicy : settings.onFailure = .warn) :
      Diagnosis settings parser color fs script (.ok (.failed failure.message)) after
        (failureLine color script failure.message)
  /-- Its call failed, and failures are only counted. -/
  | counted {answer : Except Failure Invocation} {after : FileSystem} {failure : Failure}
      (hdue : skips settings fs script = false)
      (hparse : parser.parse fs script settings.outDir = (answer, after))
      (hfailed : Attempt.failure? ⟨script, settings.outDir, answer⟩ = some failure)
      (hpolicy : settings.onFailure = .ignore) :
      Diagnosis settings parser color fs script (.ok (.failed failure.message)) after ""
  /-- Its call failed, and that ends the batch. -/
  | stopped {answer : Except Failure Invocation} {after : FileSystem} {failure : Failure}
      (hdue : skips settings fs script = false)
      (hparse : parser.parse fs script settings.outDir = (answer, after))
      (hfailed : Attempt.failure? ⟨script, settings.outDir, answer⟩ = some failure)
      (hpolicy : settings.onFailure = .abort) :
      Diagnosis settings parser color fs script (.error failure) after ""

/-- What scripts come to one after another, each in the file system that the one before it left:
the outcomes, the failure that ended the batch if there was one, the file system at the end, and
what was said of each script that the batch came to. -/
inductive Transcript (settings : Settings) (parser : Parser) (color : Bool) :
    FileSystem → List Path → List Outcome → Option Failure → FileSystem → List String → Prop where
  /-- There are no more scripts. -/
  | finished (fs : FileSystem) : Transcript settings parser color fs [] [] none fs []
  /-- A script has an outcome, and the others follow. -/
  | next {fs after left : FileSystem} {script : Path} {rest : List Path} {outcome : Outcome}
      {outcomes : List Outcome} {stop : Option Failure} {text : String} {texts : List String}
      (hfirst : Diagnosis settings parser color fs script (.ok outcome) after text)
      (hrest : Transcript settings parser color after rest outcomes stop left texts) :
      Transcript settings parser color fs (script :: rest) (outcome :: outcomes) stop left
        (text :: texts)
  /-- A script ends the batch, and the others are not come to. -/
  | ended {fs after : FileSystem} {script : Path} {rest : List Path} {failure : Failure}
      {text : String}
      (hfirst : Diagnosis settings parser color fs script (.error failure) after text) :
      Transcript settings parser color fs (script :: rest) [] (some failure) after [text]

section Texts

variable (color : Bool)

/-- A single event below a warning has no text. -/
theorem renderAll_event {level : Log.Level} (h : 2 < level.rank) (message : String)
    (fields : List (String × String)) :
    Notice.renderAll Log.Filter.standard color [event level message fields] = "" :=
  Notice.renderAll_of_not_shown color (List.forall_mem_singleton.mpr (event_not_shown h _ _))

/-- The remarks of a parser have no text. -/
theorem renderAll_remarkNotices (parser : Parser) (script outDir : Path)
    (answer : Except Failure Invocation) :
    Notice.renderAll Log.Filter.standard color (remarkNotices parser script outDir answer) =
      "" := by
  apply Notice.renderAll_of_not_shown
  intro notice hmem
  obtain ⟨remark, -, rfl⟩ := List.mem_map.mp hmem
  exact Log.Filter.standard_not_shows (by decide : 2 < Log.Level.debug.rank)

/-- What is noted of captured output has no text. -/
theorem renderAll_echo (verbose : Bool) (writer : Writer) (invocation : Invocation) :
    Notice.renderAll Log.Filter.standard color (echo verbose writer invocation).2.2 = "" := by
  cases verbose with
  | true => rfl
  | false => exact renderAll_event color (by decide : 2 < Log.Level.trace.rank) _ _

/-- The text of the warning of a failed script. -/
theorem renderAll_failure (script : Path) (reason : String) :
    Notice.renderAll Log.Filter.standard color
      [.status .warning ("Failed to parse " ++ Path.text script ++ ": " ++ reason)] =
      failureLine color script reason := by
  have hlead : " Failed to parse " = " " ++ "Failed to parse " := rfl
  rw [failureLine, hlead]
  simp only [Notice.renderAll, List.map_cons, List.map_nil, Notice.render, Status.style,
    Status.mark, String.join_cons, String.join_nil, String.append_empty, String.append_assoc]

/-- The text of the event for a success without a parse tree. -/
theorem renderAll_treeless (script artifact : Path) :
    Notice.renderAll Log.Filter.standard color
      [event .warn "parser succeeded but wrote no parse tree"
        [("script", Path.text script), ("artifact", Path.text artifact)]] =
      treelessLine script artifact := by
  have hshown : Log.Filter.standard.shows ⟨.warn, "boinkgen::batch::runner",
      "parser succeeded but wrote no parse tree",
      [("script", Path.text script), ("artifact", Path.text artifact)]⟩ = true :=
    Log.Filter.standard_shows
      (by decide : "boinkgen".toList.isPrefixOf "boinkgen::batch::runner".toList = true)
      (by decide : Log.Level.warn.rank ≤ 2)
  have hlead : "<TIME>  WARN parser succeeded but wrote no parse tree script=" =
      "<TIME> " ++ " WARN" ++ " " ++ "parser succeeded but wrote no parse tree" ++ " " ++
        "script" ++ "=" := rfl
  have hsecond : " artifact=" = " " ++ "artifact" ++ "=" := rfl
  -- Rewriting with a literal would try it on every other one, so both are put in place at once.
  have hline := congrArg₂
    (fun lead second => lead ++ Path.text script ++ second ++ Path.text artifact ++ "\n")
    hlead hsecond
  refine Eq.trans ?_ hline.symm
  simp only [Notice.renderAll, List.map_cons, List.map_nil, event, Notice.render, hshown, ite_true,
    Log.Event.render, Log.Level.tag, String.join_cons, String.join_nil, String.append_empty,
    String.append_assoc]

end Texts

section Step

variable {settings : Settings} {parser : Parser} (color : Bool) {fs after : FileSystem}
  {script : Path} (hdue : skips settings fs script = false)

include hdue

/-- A failed call is diagnosed by the policy's verdict on it. -/
theorem Diagnosis.of_failure {answer : Except Failure Invocation} {failure : Failure}
    (hparse : parser.parse fs script settings.outDir = (answer, after))
    (hfailed : Attempt.failure? ⟨script, settings.outDir, answer⟩ = some failure) :
    Diagnosis settings parser color fs script (verdict settings.onFailure script failure).1 after
      (Notice.renderAll Log.Filter.standard color
        (verdict settings.onFailure script failure).2) := by
  cases hpolicy : settings.onFailure with
  | warn =>
    rw [verdict, renderAll_failure]
    exact .warned hdue hparse hfailed hpolicy
  | abort => exact .stopped hdue hparse hfailed hpolicy
  | ignore =>
    rw [verdict, renderAll_event color (by decide : 2 < Log.Level.debug.rank)]
    exact .counted hdue hparse hfailed hpolicy

/-- An invocation is diagnosed by the judgement on it, made right after the call. -/
theorem Diagnosis.of_invocation {invocation : Invocation}
    (hparse : parser.parse fs script settings.outDir = (.ok invocation, after)) :
    Diagnosis settings parser color fs script
      (judge settings.onFailure after script (Artifact.path script settings.outDir) invocation).1
      after
      (Notice.renderAll Log.Filter.standard color (judge settings.onFailure after script
        (Artifact.path script settings.outDir) invocation).2) := by
  cases hsucceeded : invocation.succeeded with
  | false =>
    simp only [judge, hsucceeded, Bool.false_eq_true, ite_false]
    exact .of_failure color hdue hparse (by simp [Attempt.failure?, hsucceeded])
  | true =>
    have hcode : invocation.exitCode = some 0 := by simpa [Invocation.succeeded] using hsucceeded
    simp only [judge, hsucceeded, ite_true]
    by_cases htree : after.pathExists (Artifact.path script settings.outDir) = true
    · obtain ⟨node, here, hlocate⟩ := (FileSystem.pathExists_iff ..).mp htree
      rw [if_pos htree]
      exact .planted hdue hparse hcode hlocate
    · rw [if_neg htree, renderAll_treeless]
      refine .treeless hdue hparse hcode fun found hlocate => htree ?_
      exact (FileSystem.pathExists_iff ..).mpr ⟨found.2, found.1, hlocate⟩

end Step

/-- The outcome of a record that is made of an outcome. -/
theorem map_outcome_map (result : Except Failure Outcome) (script artifact : Path)
    (code : Option Int) :
    (result.map fun outcome => (⟨script, artifact, code, outcome⟩ : Record)).map Record.outcome =
      result := by
  cases result <;> rfl

/-- The outcomes of records with one more in front. -/
theorem map_outcomes_cons (result : Except Failure (List Record)) (record : Record) :
    (result.map ([record] ++ ·)).map (List.map Record.outcome) =
      (result.map (List.map Record.outcome)).map (record.outcome :: ·) := by
  cases result <;> rfl

/-- One script of a batch: what is said of it is its diagnosis. -/
theorem process_diagnosed (settings : Settings) (parser : Parser) {world : World}
    (hwriter : world.writer.Reliable) (color : Bool) (script : Path) :
    Diagnosis settings parser color world.fs script
      ((process settings parser world script).value.map Record.outcome)
      (process settings parser world script).world.fs
      (Notice.renderAll Log.Filter.standard color
        (process settings parser world script).notices) := by
  cases course settings parser world script with
  | current hskip =>
    rw [process_current settings hskip,
      renderAll_event color (by decide : 2 < Log.Level.debug.rank)]
    exact .current hskip
  | notStarted hdue hparse =>
    rw [process_notStarted settings hdue hparse, map_outcome_map, Notice.renderAll_append,
      renderAll_remarkNotices, String.empty_append]
    exact .of_failure color hdue hparse rfl
  | @refused invocation _ _ _ hecho =>
    rw [(echo_of_reliable hwriter _ invocation).1] at hecho
    cases hecho
  | finished hdue hparse hecho =>
    rw [process_finished settings hdue hparse hecho, map_outcome_map, Notice.renderAll_append,
      Notice.renderAll_append, renderAll_remarkNotices, renderAll_echo, String.empty_append,
      String.empty_append]
    exact .of_invocation color hdue hparse

/-- A batch: what it says is said of one script after another. -/
theorem runRecords_transcribed (settings : Settings) (parser : Parser) {world : World}
    (hwriter : world.writer.Reliable) (color : Bool) (scripts : List Path) :
    ∃ outcomes stop texts,
      Transcript settings parser color world.fs scripts outcomes stop
        (runRecords settings parser world scripts).world.fs texts ∧
      (runRecords settings parser world scripts).value.map (List.map Record.outcome) =
        stop.elim (.ok outcomes) .error ∧
      Notice.renderAll Log.Filter.standard color
        (runRecords settings parser world scripts).notices = String.join texts := by
  -- The relation threads the files alone; that the writer stays reliable is what the world adds.
  induction scripts generalizing world with
  | nil => exact ⟨[], none, [], .finished world.fs, rfl, rfl⟩
  | cons script rest ih =>
    have hfirst := process_diagnosed settings parser hwriter color script
    cases hvalue : (process settings parser world script).value with
    | error failure =>
      rw [hvalue] at hfirst
      rw [runRecords_cons_of_error hvalue]
      refine ⟨[], some failure, [_], .ended hfirst, rfl, ?_⟩
      rw [String.join_cons, String.join_nil, String.append_empty]
    | ok record =>
      rw [hvalue] at hfirst
      obtain ⟨outcomes, stop, texts, hrest, hended, htext⟩ :=
        ih (process_reliable settings parser hwriter script)
      rw [runRecords_cons_of_ok hvalue, Progress.followedBy]
      refine ⟨record.outcome :: outcomes, stop, _ :: texts, .next hfirst hrest, ?_, ?_⟩
      · rw [map_outcomes_cons, hended]
        cases stop <;> rfl
      · rw [Notice.renderAll_append, htext, String.join_cons]

/-- What a batch says by default is said of one script after another, each in the file system that
the one before it left. -/
theorem run_speaks_of_each_script (settings : Settings) (parser : Parser) (world : World)
    (scripts : List Path) (hwriter : world.writer.Reliable) (color : Bool) :
    let batch := run settings parser world scripts
    ∃ outcomes stop texts,
      Transcript settings parser color world.fs scripts outcomes stop batch.world.fs texts ∧
      Notice.renderAll Log.Filter.standard color batch.notices = String.join texts ∧
      batch.value.map (fun tally => tally.records.map Record.outcome) =
        stop.elim (.ok outcomes) .error ∧
      ∀ tally, batch.value = .ok tally → tally.success = outcomes.count .success := by
  intro batch
  obtain ⟨outcomes, stop, texts, htranscript, hended, htext⟩ :=
    runRecords_transcribed settings parser hwriter color scripts
  refine ⟨outcomes, stop, texts, htranscript, htext, ?_, fun tally htally => ?_⟩
  · rw [← hended]
    simp only [batch, run]
    cases (runRecords settings parser world scripts).value with
    | error failure => rfl
    | ok records => simp only [Except.map, Tally.records_ofRecords]
  · obtain ⟨records, hrun, rfl⟩ := map_eq_ok_iff.mp htally
    rw [hrun] at hended
    cases stop with
    | some failure => cases hended
    | none =>
      cases hended
      exact Tally.success_ofRecords records

/-- A parser that accepts `a.boink` without a parse tree, and writes that parse tree when it rejects
another script. -/
def belatedParser : Parser where
  parse fs script _ :=
    if script = Path.ofText "a.boink" then (.ok ⟨"p", some 0, [], []⟩, fs)
    else
      (.ok ⟨"p", some 1, [], Utf8.encode "no\n"⟩,
        fs.put [Path.ofText "a.json"] ⟨.file [], 0o644, fs.now⟩)

/-- A success is without its parse tree although a later script writes it. -/
theorem run_speaks_of_each_script_belated :
    let settings : Settings := { scriptsDir := Path.ofText "." }
    let batch := run settings belatedParser ⟨twoScripts, {}⟩
      [Path.ofText "a.boink", Path.ofText "b.boink"]
    Notice.renderAll Log.Filter.standard false batch.notices =
        "<TIME>  WARN parser succeeded but wrote no parse tree script=a.boink" ++
        " artifact=./a.json\n" ++
        "[WARN] Failed to parse b.boink: External command failed (exit code 1): p\nno\n" ∧
      batch.world.fs.pathExists (Path.ofText "./a.json") = true := by
  intro settings batch
  obtain ⟨outcomes, stop, texts, htranscript, htext, -⟩ :=
    run_speaks_of_each_script settings belatedParser ⟨twoScripts, {}⟩
      [Path.ofText "a.boink", Path.ofText "b.boink"] ((Writer.reliable_iff _).mpr ⟨rfl, rfl⟩) false
  have hfirst : belatedParser.parse twoScripts (Path.ofText "a.boink") settings.outDir =
      (.ok ⟨"p", some 0, [], []⟩, twoScripts) := rfl
  have hsecond : belatedParser.parse twoScripts (Path.ofText "b.boink") settings.outDir =
      (.ok ⟨"p", some 1, [], Utf8.encode "no\n"⟩,
        twoScripts.put [Path.ofText "a.json"] ⟨.file [], 0o644, twoScripts.now⟩) := rfl
  have hbare : twoScripts.locate (Artifact.path (Path.ofText "a.boink") settings.outDir) =
      .error .notFound := by cbv
  have hlate : (twoScripts.put [Path.ofText "a.json"] ⟨.file [], 0o644, twoScripts.now⟩).pathExists
      (Path.ofText "./a.json") = true := by cbv
  rw [htext]
  generalize batch.world.fs = left at htranscript ⊢
  -- The policy lets no script end the batch, and the two answers leave one diagnosis for each.
  cases htranscript with
  | ended hdiagnosis =>
    cases hdiagnosis with
    | stopped _ _ _ hpolicy => cases hpolicy
  | next hdiagnosis hrest =>
    cases hdiagnosis with
    | current hskip => cases hskip
    | planted _ hparse _ htree =>
      cases hfirst.symm.trans hparse
      cases hbare.symm.trans htree
    | treeless _ hparse _ hnone =>
      cases hfirst.symm.trans hparse
      cases hrest with
      | ended hdiagnosis =>
        cases hdiagnosis with
        | stopped _ _ _ hpolicy => cases hpolicy
      | next hdiagnosis hrest =>
        cases hrest
        cases hdiagnosis with
        | current hskip => cases hskip
        | planted _ hparse hcode =>
          cases hsecond.symm.trans hparse
          cases hcode
        | treeless _ hparse hcode =>
          cases hsecond.symm.trans hparse
          cases hcode
        | warned _ hparse hfailed =>
          cases hsecond.symm.trans hparse
          cases hfailed
          exact ⟨by decide +kernel, hlate⟩
        | counted _ _ _ hpolicy => cases hpolicy
    | warned _ hparse hfailed =>
      cases hfirst.symm.trans hparse
      cases hfailed
    | counted _ _ _ hpolicy => cases hpolicy

end Batch

end Fixtures
