import Fixtures.Parser
import Fixtures.Proofs.Text.Words

/-!
# What is started for a script

The launcher's words come first, then the executable, then the subcommand and the two paths. Only
the launcher is cut; all else is passed byte for byte. How much white space the launcher's text has,
and of which kind, makes no difference.

A launcher text has the words that it is written for: any list of words without white space, with
white space between them and perhaps before and behind them, is recovered. So a text of white space
alone is no launcher, and texts that are written for the same words make the same command.
-/

namespace Fixtures.ParserCommand

/-- Without a launcher text there are no words. -/
theorem launcher_of_none (executable : Path) : (ofTexts executable none).launcher = [] := rfl

/-- A launcher text has the words that it is written for. -/
theorem launcher_of_some (executable : Path) {text : String} {words : List String} :
    (ofTexts executable (some text)).launcher = words ↔ Text.Writes text words :=
  Text.words_eq_iff

/-- Commands with one executable and the same words are the same. -/
theorem ofTexts_eq_iff (executable : Path) (launcher other : Option String) :
    ofTexts executable launcher = ofTexts executable other ↔
      (ofTexts executable launcher).launcher = (ofTexts executable other).launcher := by
  simp [ofTexts]

/-- White space is written for no words. -/
theorem writes_nil {text : String} (h : ∀ c ∈ text.toList, Text.isBlank c = true) :
    Text.Writes text [] := .gap h

/-- What is started for a script: the words of the launcher, if there is one, and then the call of
the executable as it was given. -/
theorem started_is_launcher_then_call (executable : Path) (launcher : Option String)
    (script outDir : Path) :
    let command := ofTexts executable launcher
    (∃ words : List String,
      command.program :: command.arguments script outDir =
        words.map Utf8.encode ++ [executable, Utf8.encode "parse", script, outDir] ∧
      (launcher = none → words = []) ∧
      ∀ text list, launcher = some text → (Text.Writes text list ↔ words = list)) ∧
    (∀ (host : Host) (fs : FileSystem), (command.parser host).parse fs script outDir =
      (command.answer script outDir
          (host fs (command.program :: command.arguments script outDir)).1,
        (host fs (command.program :: command.arguments script outDir)).2)) ∧
    (∀ text : String, (∀ c ∈ text.toList, Text.isBlank c = true) →
      ofTexts executable (some text) = ofTexts executable none) ∧
    ∀ text other list, Text.Writes text list → Text.Writes other list →
      ofTexts executable (some text) = ofTexts executable (some other) := by
  intro command
  refine ⟨⟨command.launcher, ?_, ?_, ?_⟩, ?_, ?_, ?_⟩
  · rw [← command.argv_eq script outDir]
    rfl
  · rintro rfl
    exact launcher_of_none executable
  · rintro text list rfl
    exact (launcher_of_some executable).symm
  · intro host fs
    rw [← command.argv_eq script outDir]
    rfl
  · intro text hblank
    rw [ofTexts_eq_iff, launcher_of_none, launcher_of_some]
    exact writes_nil hblank
  · intro text other list htext hother
    rw [ofTexts_eq_iff, launcher_of_some, (launcher_of_some executable).mpr hother]
    exact htext

/-- A launcher of two words, with a no-break space before them, a tab and a blank between them and
an ideographic space behind them. The paths have a blank in them, or are no text. -/
theorem started_is_launcher_then_call_dotnet :
    let text := "\u00a0dotnet\t exec\u3000"
    let command := ofTexts (Path.ofText "my tool.dll") (some text)
    Text.Writes text ["dotnet", "exec"] ∧
      command.program :: command.arguments [0xFF, 0x20] (Path.ofText "out dir") =
        [Utf8.encode "dotnet", Utf8.encode "exec", Path.ofText "my tool.dll", Utf8.encode "parse",
          [0xFF, 0x20], Path.ofText "out dir"] ∧
      command = ofTexts (Path.ofText "my tool.dll") (some "dotnet exec") := by
  intro text command
  have htext : Text.Writes text ["dotnet", "exec"] := Text.words_eq_iff.mp (by decide +kernel)
  have hplain : Text.Writes "dotnet exec" ["dotnet", "exec"] :=
    Text.words_eq_iff.mp (by decide +kernel)
  obtain ⟨⟨words, hstarted, -, hwords⟩, -, -, hsame⟩ := started_is_launcher_then_call
    (Path.ofText "my tool.dll") (some text) [0xFF, 0x20] (Path.ofText "out dir")
  refine ⟨htext, ?_, hsame _ _ _ htext hplain⟩
  rw [hstarted, (hwords text _ rfl).mp htext]
  rfl

end Fixtures.ParserCommand
