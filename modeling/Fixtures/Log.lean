import Fixtures.Text.Pieces

/-!
# Log events

The parts of the program note what they do as events. A filter decides which of them are shown: of
its rules, the one with the longest target that starts the event's module path decides, and an event
that no rule speaks of is not shown.
-/

namespace Fixtures

namespace Log

/-- How important an event is. -/
inductive Level where
  | error
  | warn
  | info
  | debug
  | trace
  deriving DecidableEq, Repr

/-- The place of a level, the most important first. -/
def Level.rank : Level → Nat
  | error => 1
  | warn => 2
  | info => 3
  | debug => 4
  | trace => 5

/-- The word for a level, filled to five characters. -/
def Level.tag : Level → String
  | error => "ERROR"
  | warn => " WARN"
  | info => " INFO"
  | debug => "DEBUG"
  | trace => "TRACE"

/-- Something that a part of the program noted. -/
structure Event where
  /-- How important it is. -/
  level : Level
  /-- The module path of the part. -/
  target : String
  /-- What happened. -/
  message : String
  /-- Names and values that go with it. -/
  fields : List (String × String)
  deriving DecidableEq, Repr

/-- The line of an event, with a mark in place of its time. Values are shown as they are. -/
def Event.render (event : Event) : String :=
  "<TIME> " ++ event.level.tag ++ " " ++ event.message ++
    String.join (event.fields.map fun field => " " ++ field.1 ++ "=" ++ field.2) ++ "\n"

/-- A rule of a filter: the least important level that is shown for a target, where zero shows
nothing. -/
structure Rule where
  /-- The start of the module paths that the rule speaks of. -/
  target : String
  /-- The largest rank that is shown. -/
  limit : Nat
  deriving DecidableEq, Repr

/-- A filter is a list of rules. -/
abbrev Filter := List Rule

namespace Filter

/-- Warnings and errors of the program itself are shown by default. -/
def standard : Filter := [⟨"boinkgen", 2⟩]

/-- Of the rules that speak of a target, the one with the longest target; the later of two equal
ones. -/
def ruleFor (filter : Filter) (target : String) : Option Rule :=
  (filter.filter fun rule => rule.target.toList.isPrefixOf target.toList).foldl
    (fun best rule =>
      match best with
      | none => some rule
      | some b => if b.target.length ≤ rule.target.length then some rule else some b)
    none

/-- Whether the filter lets an event through. -/
def shows (filter : Filter) (event : Event) : Bool :=
  match filter.ruleFor event.target with
  | some rule => event.level.rank ≤ rule.limit
  | none => false

/-- The rank that a level's word stands for; zero is the level that shows nothing. -/
def wordLimit? (text : String) : Option Nat :=
  let word := text.map Char.toLower
  if word == "off" then some 0
  else if word == "error" then some 1
  else if word == "warn" then some 2
  else if word == "info" then some 3
  else if word == "debug" then some 4
  else if word == "trace" then some 5
  else none

/-- The rank that a level's word or digit stands for. -/
def limit? (text : String) : Option Nat :=
  match text.toList with
  | [digit] => if '0' ≤ digit && digit ≤ '5' then some (digit.toNat - '0'.toNat) else none
  | _ => wordLimit? text

/-- Whether a target could be taken for a level: a word for one, or its digit after zeros. Such a
target does not count. -/
def isLevelLike (target : List Char) : Bool :=
  (limit? (String.ofList target)).isSome ||
    (target.all Char.isDigit &&
      match target.dropWhile (· == '0') with
      | [] => true
      | [digit] => digit ≤ '5'
      | _ => false)

/-- Characters that a target is written with. -/
def isTargetChar (c : Char) : Bool :=
  c.isAlphanum || c == '_' || c == ':' || c == '-' || 0x80 ≤ c.toNat

/-- The rule of one directive: a level, a target with a level, or a target for which everything is
shown. -/
def rule? (directive : String) : Option Rule :=
  match limit? directive with
  | some n => some ⟨"", n⟩
  | none =>
    let target := directive.toList.takeWhile isTargetChar
    let speaksOf := if isLevelLike target then "" else String.ofList target
    if target.isEmpty then
      none
    else
      match directive.toList.dropWhile isTargetChar with
      | [] => some ⟨speaksOf, 5⟩
      | '=' :: [] => some ⟨speaksOf, 5⟩
      | '=' :: level => (limit? (String.ofList level)).map fun n => ⟨speaksOf, n⟩
      | _ => none

/-- The filter that a list of directives with commas between them describes. -/
def parse? (text : String) : Option Filter :=
  (Text.solidPieces (· == ',') text.toList).mapM fun piece => rule? (String.ofList piece)

/-- The filter for the value of the environment variable, if it is set. A value that describes no
filter counts as unset. -/
def ofEnvironment (value : Option String) : Filter :=
  (value.bind parse?).getD standard

end Filter

end Log

end Fixtures
