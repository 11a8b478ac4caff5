import Fixtures.Options.Basic

/-!
# Help and version

The texts that are printed instead of a run. The short help has a line for each option; the long one
gives each option a paragraph. Both show the values of the environment variables that are set.
-/

namespace Fixtures

namespace Options

/-- The name and number that the version shows. -/
def versionText : String := "boinkgen 0.1.0\n"

/-- The remark on an environment variable, with the value it has. Further lines of a value are
indented. -/
def variableRemark (indent : Nat) (name : String) (value : Option Bytes) : String :=
  let shown := (Utf8.lossy (value.getD [])).toList.flatMap fun c =>
    if c = '\n' then c :: List.replicate indent ' ' else [c]
  "[env: " ++ name ++ "=" ++ String.ofList shown ++ "]"

/-- What both help texts start with. -/
def helpOpening : List String :=
  ["Generate parse-tree fixtures for every Boink test script", "", "Usage: boinkgen [OPTIONS]", "",
    "Options:"]

/-- The lines of the short help. -/
def shortHelpLines (environment : Environment) : List String :=
  let remark := variableRemark 33
  helpOpening ++
    ["  -v, --verbose                  " ++
        "Echo the captured output of each parser invocation to stdout",
      "  -d, --dir <DIR>                Directory containing the test scripts " ++
        remark "BOINKGEN_DIR" environment.dir ++ " [default: test-scripts]",
      "  -o, --out-dir <OUT_DIR>        " ++
        "Directory the parse trees are written to (defaults to --dir)",
      "  -e, --exe <EXE>                Boink executable implementing the `parse` command " ++
        remark "BOINKGEN_EXE" environment.exe ++ " [default: boinkmain]",
      "      --launcher <LAUNCHER>      " ++
        "Program the executable is run through (e.g. 'dotnet', 'powershell') " ++
        remark "BOINKGEN_LAUNCHER" environment.launcher,
      "      --extension <EXTENSION>    Extension of the test scripts [default: boink]",
      "      --on-failure <ON_FAILURE>  What to do when an invocation fails " ++
        "[default: warn] [possible values: warn, abort, ignore]",
      "      --skip-up-to-date          Skip scripts whose parse tree is newer than the script",
      "      --dry-run                  Only list the invocations that would run",
      "      --report <REPORT>          Write a CSV report of every processed script",
      "  -h, --help                     Print help (see more with '--help')",
      "  -V, --version                  Print version"]

/-- The lines of the long help. -/
def longHelpLines (environment : Environment) : List String :=
  let indent := "          "
  let remark := variableRemark 10
  helpOpening ++
    ["  -v, --verbose",
      indent ++ "Echo the captured output of each parser invocation to stdout",
      "",
      "  -d, --dir <DIR>",
      indent ++ "Directory containing the test scripts",
      indent,
      indent ++ remark "BOINKGEN_DIR" environment.dir,
      indent ++ "[default: test-scripts]",
      "",
      "  -o, --out-dir <OUT_DIR>",
      indent ++ "Directory the parse trees are written to (defaults to --dir)",
      "",
      "  -e, --exe <EXE>",
      indent ++ "Boink executable implementing the `parse` command",
      indent,
      indent ++ remark "BOINKGEN_EXE" environment.exe,
      indent ++ "[default: boinkmain]",
      "",
      "      --launcher <LAUNCHER>",
      indent ++ "Program the executable is run through (e.g. 'dotnet', 'powershell')",
      indent,
      indent ++ remark "BOINKGEN_LAUNCHER" environment.launcher,
      "",
      "      --extension <EXTENSION>",
      indent ++ "Extension of the test scripts",
      indent,
      indent ++ "[default: boink]",
      "",
      "      --on-failure <ON_FAILURE>",
      indent ++ "What to do when an invocation fails",
      "",
      indent ++ "Possible values:",
      indent ++ "- warn:   Report each failure, keep going, exit non-zero at the end",
      indent ++ "- abort:  Stop at the first failed invocation",
      indent ++ "- ignore: Count failures but exit successfully",
      indent,
      indent ++ "[default: warn]",
      "",
      "      --skip-up-to-date",
      indent ++ "Skip scripts whose parse tree is newer than the script",
      "",
      "      --dry-run",
      indent ++ "Only list the invocations that would run",
      "",
      "      --report <REPORT>",
      indent ++ "Write a CSV report of every processed script",
      "",
      "  -h, --help",
      indent ++ "Print help (see a summary with '-h')",
      "",
      "  -V, --version",
      indent ++ "Print version"]

/-- The help text in an environment. -/
def helpText (environment : Environment) (long : Bool) : String :=
  let lines := if long then longHelpLines environment else shortHelpLines environment
  Text.visible (String.join (lines.map fun line => line ++ "\n"))

end Options

end Fixtures
