import Fixtures.Path
import Fixtures.Text.Blank

/-!
# The parser's command line

The parser is an executable, perhaps run through a launcher. A launcher text is cut into words at
white space; the executable and the paths are passed as they are and never cut.
-/

namespace Fixtures

/-- The external parser: an executable and the words of the launcher in front of it. -/
structure ParserCommand where
  /-- The executable that implements the parsing subcommand. -/
  executable : Path
  /-- The launcher program and its arguments, or nothing. -/
  launcher : List String
  deriving DecidableEq, Repr

namespace ParserCommand

/-- The subcommand that asks for a parse tree. -/
def subcommand : Bytes := Utf8.encode "parse"

/-- The command for an executable and a launcher text. A launcher of white space only is none. -/
def ofTexts (executable : Path) (launcher : Option String) : ParserCommand where
  executable := executable
  launcher := (launcher.map Text.words).getD []

/-- The program and its arguments for one script, in one list. -/
def argv (command : ParserCommand) (script outDir : Path) : List Bytes :=
  command.launcher.map Utf8.encode ++ [command.executable, subcommand, script, outDir]

/-- The program that is started. -/
def program (command : ParserCommand) : Bytes :=
  match command.launcher with
  | [] => command.executable
  | word :: _ => Utf8.encode word

/-- What the program is given. -/
def arguments (command : ParserCommand) (script outDir : Path) : List Bytes :=
  (command.argv script outDir).drop 1

/-- The command line as it is shown: its parts in their shown form, with one blank between them. -/
def commandLine (command : ParserCommand) (script outDir : Path) : String :=
  " ".intercalate ((command.argv script outDir).map Utf8.lossy)

/-- The program stands first and its arguments follow. -/
theorem argv_eq (command : ParserCommand) (script outDir : Path) :
    command.argv script outDir = command.program :: command.arguments script outDir := by
  rcases command with ⟨executable, launcher⟩
  cases launcher <;> simp [argv, program, arguments]

end ParserCommand

end Fixtures
