import Fixtures.Options.Basic

/-!
# Reading the command line

Arguments are read from left to right. A value that stands as an argument of its own is held until
the next option or the end, and only then looked at; an argument that belongs to no option is
refused at once, whatever is held. The environment is looked at last.
-/

namespace Fixtures

namespace Options

/-- A setting whose value is still open. -/
inductive Pending where
  /-- Nothing is open. -/
  | nothing
  /-- The value has not come yet. -/
  | awaiting (setting : Setting)
  /-- The value has come and has not been looked at. -/
  | holding (setting : Setting) (raw : Bytes)
  deriving DecidableEq, Repr

/-- A refusal as a reason to stop. -/
def refuse {α : Type} (error : UsageError) : Except Stop α := .error (.usage error)

/-- A refusal, if there is one, as a reason to stop. -/
def orRefuse {α : Type} : Except UsageError α → Except Stop α
  | .ok value => .ok value
  | .error error => refuse error

/-- Looks at the value that is held. -/
def Pending.settle (pending : Pending) (given : Given) : Except Stop Given :=
  match pending with
  | .nothing => .ok given
  | .awaiting setting => refuse (.missingValue setting.label)
  | .holding setting raw => orRefuse (given.accept setting raw)

/-- The first character of an argument's rest, or all of it if that is ill formed there. -/
def firstShown (rest : Bytes) : String :=
  match Utf8.decode rest with
  | some c :: _ => String.singleton c
  | _ => Utf8.lossy rest

/-- A value that is written directly after a short name. An equals sign in front is not part of
it. -/
def attached (rest : Bytes) : Bytes :=
  match rest with
  | 0x3D :: value => value
  | _ => rest

/-- Reads the letters of a group of short names. -/
def readShorts (given : Given) (pending : Pending) : Bytes → Except Stop (Given × Pending)
  | [] => .ok (given, pending)
  | letter :: rest =>
    match Switch.ofShort? letter with
    | none => refuse (.unexpectedArgument ("-" ++ firstShown (letter :: rest)))
    | some (.flag flag) =>
      match (pending.settle given).bind fun g => orRefuse (g.acceptFlag flag) with
      | .error stop => .error stop
      | .ok g => readShorts g .nothing rest
    | some .help => (pending.settle given).bind fun _ => .error (.help false)
    | some .version => (pending.settle given).bind fun _ => .error .version
    | some (.setting setting) =>
      (pending.settle given).bind fun g =>
        if rest = [] then .ok (g, .awaiting setting)
        else (orRefuse (g.accept setting (attached rest))).map fun g => (g, .nothing)

/-- Reads one long option, given without its dashes. -/
def readLong (given : Given) (pending : Pending) (body : Bytes) :
    Except Stop (Given × Pending) :=
  let name := body.takeWhile (· != 0x3D)
  let value : Option Bytes :=
    match body.dropWhile (· != 0x3D) with
    | [] => none
    | _ :: value => some value
  match (Utf8.text? name).bind Switch.ofLong?, value with
  | none, _ => refuse (.unexpectedArgument ("--" ++ Utf8.lossy name))
  | some (.setting setting), some raw =>
    (pending.settle given).bind fun g =>
      (orRefuse (g.accept setting raw)).map fun g => (g, .nothing)
  | some (.setting setting), none =>
    (pending.settle given).map fun g => (g, .awaiting setting)
  | some switch, some raw => refuse (.unexpectedValue (Utf8.lossy raw) switch.label)
  | some (.flag flag), none =>
    (pending.settle given).bind fun g =>
      (orRefuse (g.acceptFlag flag)).map fun g => (g, .nothing)
  | some .help, none => (pending.settle given).bind fun _ => .error (.help true)
  | some .version, none => (pending.settle given).bind fun _ => .error .version

/-- Reads one argument that is not the end mark. -/
def readArgument (given : Given) (pending : Pending) (argument : Bytes) :
    Except Stop (Given × Pending) :=
  match argument with
  | 0x2D :: 0x2D :: body => readLong given pending body
  | 0x2D :: letter :: letters => readShorts given pending (letter :: letters)
  | _ =>
    match pending with
    | .awaiting setting => .ok (given, .holding setting argument)
    | _ => refuse (.unexpectedArgument (Utf8.lossy argument))

/-- Reads arguments to their end. Nothing may follow the end mark. -/
def readArguments (given : Given) (pending : Pending) : List Bytes → Except Stop Given
  | [] => pending.settle given
  | argument :: rest =>
    if argument = [0x2D, 0x2D] then
      match rest with
      | [] => pending.settle given
      | extra :: _ => refuse (.unexpectedArgument (Utf8.lossy extra))
    else
      match readArgument given pending argument with
      | .error stop => .error stop
      | .ok (given, pending) => readArguments given pending rest

/-- Takes a variable for a setting that was not given. -/
def standIn (given : Given) (setting : Setting) (value : Option Bytes) : Except Stop Given :=
  match value with
  | some raw => if given.has setting then .ok given else orRefuse (given.assign setting raw)
  | none => .ok given

/-- Takes the environment for what was not given. -/
def completed (environment : Environment) (given : Given) : Except Stop Given :=
  (standIn given .dir environment.dir).bind fun given =>
    (standIn given .exe environment.exe).bind fun given =>
      standIn given .launcher environment.launcher

/-- What a command line asks for in an environment. -/
def parse (environment : Environment) (arguments : List Bytes) : Except Stop Request :=
  ((readArguments {} .nothing arguments).bind (completed environment)).map Given.request

end Options

end Fixtures
