import Fixtures.Rehearsal.Session

/-!
# The command line

Reads the arguments and the environment, and the files of the working directory as a list of paths
on standard input, one path a line. Programs are not started from here: a dry run shows the plan for
the listed files, and in any other run each invocation is answered as one that could not be started.
-/

namespace Fixtures

/-- The host that starts nothing. -/
def idleHost : Host := fun fs _ => (.error .refused, fs)

/-- The file system with the listed files in its working directory. -/
def listedFiles (listing : String) : FileSystem :=
  Rehearsal.applyEntries Rehearsal.emptyScene <|
    (Text.solidPieces (· == '\n') listing.toList).map fun line =>
      ⟨Path.ofText (String.ofList line), .file [], none, none⟩

/-- Reads a stream to its end. -/
partial def readAll (input : IO.FS.Stream) (soFar : String) : IO String := do
  let line ← input.getLine
  if line.isEmpty then
    return soFar
  readAll input (soFar ++ line)

/-- The value of an environment variable, as bytes. -/
def variableBytes (name : String) : IO (Option Bytes) :=
  return (← IO.getEnv name).map Utf8.encode

/-- Runs the command with the given arguments and returns its exit code. -/
def runMain (arguments : List String) : IO UInt32 := do
  let environment : Options.Environment :=
    { dir := ← variableBytes "BOINKGEN_DIR"
      exe := ← variableBytes "BOINKGEN_EXE"
      launcher := ← variableBytes "BOINKGEN_LAUNCHER" }
  match Options.parse environment (arguments.map Utf8.encode) with
  | .error stop =>
    let text := Rehearsal.stopText environment stop
    match stop with
    | .usage _ =>
      IO.eprintln text
      return 2
    | _ =>
      IO.print text
      return 0
  | .ok request =>
    let filter := Log.Filter.ofEnvironment (← IO.getEnv "RUST_LOG")
    let fs := listedFiles (← readAll (← IO.getStdin) "")
    let progress := Generate.run idleHost request ⟨fs, {}⟩
    (← IO.getStdout).write (ByteArray.mk progress.world.writer.stored.toArray)
    IO.eprint (Notice.renderAll filter false (Generate.diagnostics progress))
    return UInt32.ofNat (Generate.exitCode progress)

end Fixtures

/-- The entry point. -/
def main (arguments : List String) : IO UInt32 := Fixtures.runMain arguments
