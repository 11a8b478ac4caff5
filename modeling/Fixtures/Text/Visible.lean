/-!
# Visible text

Messages and help texts can quote what was given on the command line. Before they are shown, escape
sequences and control characters are taken out, so that a quoted text cannot act on a terminal. Of
the control characters only those that are white space stay.
-/

namespace Fixtures.Text

/-- The part of an escape sequence that comes next. -/
inductive EscapeState where
  /-- Outside of sequences. -/
  | ground
  /-- After the escape character. -/
  | escape
  /-- After an intermediate character of a short sequence. -/
  | escapeIntermediate
  /-- At the start of a control sequence. -/
  | controlEntry
  /-- In the parameters of a control sequence. -/
  | controlParameters
  /-- After an intermediate character of a control sequence. -/
  | controlIntermediate
  /-- In a malformed control sequence. -/
  | controlIgnored
  /-- In a command string that a bell can end. -/
  | command
  /-- In a string that only an escape character ends. -/
  | string
  deriving DecidableEq, Repr

namespace EscapeState

/-- Whether `n` lies between two code points. -/
def within (low n high : Nat) : Bool := low ≤ n && n ≤ high

/-- The state after a character that is not shown. -/
def next (state : EscapeState) (n : Nat) : EscapeState :=
  if n = 0x1B then .escape
  else if n = 0x18 || n = 0x1A then .ground
  else
    match state with
    | .ground => .ground
    | .escape =>
      if n = 0x5B then .controlEntry
      else if n = 0x5D then .command
      else if n = 0x50 || n = 0x58 || n = 0x5E || n = 0x5F then .string
      else if within 0x20 n 0x2F then .escapeIntermediate
      else if within 0x30 n 0x7E then .ground
      else .escape
    | .escapeIntermediate => if within 0x30 n 0x7E then .ground else .escapeIntermediate
    | .controlEntry =>
      if within 0x20 n 0x2F then .controlIntermediate
      else if within 0x30 n 0x3F then .controlParameters
      else if within 0x40 n 0x7E then .ground
      else .controlEntry
    | .controlParameters =>
      if within 0x20 n 0x2F then .controlIntermediate
      else if within 0x3C n 0x3F then .controlIgnored
      else if within 0x40 n 0x7E then .ground
      else .controlParameters
    | .controlIntermediate =>
      if within 0x30 n 0x3F then .controlIgnored
      else if within 0x40 n 0x7E then .ground
      else .controlIntermediate
    | .controlIgnored => if within 0x40 n 0x7E then .ground else .controlIgnored
    | .command => if n = 0x07 then .ground else .command
    | .string => .string

/-- Whether a character is shown in a state. -/
def shows (state : EscapeState) (n : Nat) : Bool :=
  let isSpace := n = 0x09 || n = 0x0A || n = 0x0C || n = 0x0D
  match state with
  | .ground => isSpace || (0x20 ≤ n && n ≠ 0x7F)
  | .command | .string => 0x80 ≤ n
  | _ => isSpace || 0x80 ≤ n

end EscapeState

/-- The characters that are shown from a state on. -/
def visibleFrom (state : EscapeState) : List Char → List Char
  | [] => []
  | c :: rest =>
    if state.shows c.toNat then c :: visibleFrom .ground rest
    else visibleFrom (state.next c.toNat) rest

/-- The text without escape sequences and control characters. -/
def visible (text : String) : String := String.ofList (visibleFrom .ground text.toList)

/-- The text up to its first line break, which may be a carriage return and a line feed. -/
def firstLine (text : String) : String :=
  let line := text.toList.takeWhile (· != '\n')
  if line.length < text.length && line.getLast? == some '\r' then String.ofList line.dropLast
  else String.ofList line

end Fixtures.Text
