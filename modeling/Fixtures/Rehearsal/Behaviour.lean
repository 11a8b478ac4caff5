import Fixtures.FileSystem.Write
import Fixtures.Parser

/-!
# Rehearsed parsers

For a rehearsal the parser is replaced by a list of behaviours. The behaviour for a script is the
first with its name, or else the first without a name. It can be played inside the process, where
it may also fail to answer, or by programs on a host.
-/

namespace Fixtures.Rehearsal

/-- What a rehearsed parser does for a script. -/
structure Behaviour where
  /-- The name of the script, or none for all scripts. -/
  name : Option Bytes := none
  /-- The exit code. -/
  exit : Int := 0
  /-- Whether a signal ends the run. -/
  killed : Bool := false
  /-- What is written to standard output. -/
  stdout : Bytes := []
  /-- What is written to standard error. -/
  stderr : Bytes := []
  /-- The file that is made in the output directory. -/
  writes : Option Path := none
  /-- The bytes of that file. -/
  content : Bytes := Utf8.encode "\x7b\x7d"
  /-- The command that the invocation shows, if it is not the usual one. -/
  command : Option String := none
  /-- The failure that is answered instead of an invocation. -/
  failure : Option Failure := none
  deriving DecidableEq, Repr

namespace Behaviour

/-- The behaviour for a script. -/
def select (behaviours : List Behaviour) (script : Path) : Behaviour :=
  let name := Path.afterLastSlash script
  ((behaviours.find? fun b => b.name == some name).or
    (behaviours.find? fun b => b.name.isNone)).getD {}

/-- The file system after the behaviour's file was made. A file that cannot be made is left out. -/
def leave (behaviour : Behaviour) (fs : FileSystem) (outDir : Path) : FileSystem :=
  match behaviour.writes with
  | none => fs
  | some name =>
    match fs.writeFile (Path.join outDir name) behaviour.content with
    | .ok fs => fs
    | .error _ => fs

/-- The exit code that is seen. -/
def exitCode (behaviour : Behaviour) : Option Int :=
  if behaviour.killed then none else some behaviour.exit

end Behaviour

/-- The parser that plays behaviours inside the process. -/
def parser (behaviours : List Behaviour) : Parser where
  parse fs script outDir :=
    let behaviour := Behaviour.select behaviours script
    match behaviour.failure with
    | some failure => (.error failure, fs)
    | none =>
      let usual := "boinkmain parse " ++ Path.text script ++ " " ++ Path.text outDir
      (.ok ⟨behaviour.command.getD usual, behaviour.exitCode, behaviour.stdout, behaviour.stderr⟩,
        behaviour.leave fs outDir)

/-- The programs that are found by name alone. -/
def knownPrograms : List Bytes := [Utf8.encode "boinkmain", Utf8.encode "launch"]

/-- Whether a node can be run. -/
def isRunnable (fs : FileSystem) (node : Node) : Bool :=
  node.content == .program &&
    (if fs.privileged then node.mode &&& 0o111 != 0 else fs.allows .search node)

/-- Whether a program can be started, and why not. A name without a slash is looked up among the
known programs; the directory they stand in has the names of one and two dots as well. -/
def startable (fs : FileSystem) (argv : List Bytes) : Except StartError Unit :=
  let program := argv.headD []
  if argv.any fun argument => argument.contains 0 then .error .refused
  else if program.contains Path.slash then
    match fs.locate program with
    | .error .notFound => .error .missing
    | .error _ => .error .refused
    | .ok (_, node) => if isRunnable fs node then .ok () else .error .refused
  else if FileSystem.maxName < program.length then .error .refused
  else if program = [Path.dot] ∨ program = [Path.dot, Path.dot] then .error .refused
  else if program ∈ knownPrograms then .ok ()
  else .error .missing

/-- The host whose programs all play behaviours. They take their last two arguments as script and
output directory, and only the low byte of an exit code is seen. -/
def host (behaviours : List Behaviour) : Host := fun fs argv =>
  match startable fs argv with
  | .error e => (.error e, fs)
  | .ok () =>
    let last := argv.reverse
    let behaviour := Behaviour.select behaviours ((last.drop 1).headD [])
    (.ok ⟨behaviour.exitCode.map (· % 256), behaviour.stdout, behaviour.stderr⟩,
      behaviour.leave fs (last.headD []))

end Fixtures.Rehearsal
