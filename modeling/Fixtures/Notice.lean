import Fixtures.Log
import Fixtures.Style
import Fixtures.Table

/-!
# Notices

Everything the program writes to standard error, before it is turned into text: status lines, the
header, separators, tables, log events and a report that is sent there. Events are always kept; the
filter drops those that are not shown when the notices are rendered. Standard error is taken to be
no terminal, so the bar that shows the progress of a batch on a terminal is never drawn.
-/

namespace Fixtures

/-- The kinds of status lines. -/
inductive Status where
  | success
  | error
  | warning
  | info
  | skip
  | done
  deriving DecidableEq, Repr

namespace Status

/-- The mark at the start of a status line. -/
def mark : Status → String
  | success => "[OK]"
  | error => "[ERR]"
  | warning => "[WARN]"
  | info => "[*]"
  | skip => "[SKIP]"
  | done => "[DONE]"

/-- The style of the mark. -/
def style : Status → Style
  | success => .boldGreen
  | error => .boldRed
  | warning => .boldYellow
  | info => .boldBlue
  | skip => .dimmed
  | done => .boldGreen

end Status

/-- One thing that is written to standard error. -/
inductive Notice where
  /-- A mark and a text. -/
  | status (kind : Status) (text : String)
  /-- A parse tree was made from a script. -/
  | generated (script tree : String)
  /-- A title between two lines. -/
  | header (title : String)
  /-- A line. -/
  | separator
  /-- A table. -/
  | table (table : Table)
  /-- A log event. -/
  | event (event : Log.Event)
  /-- A text as it is. -/
  | verbatim (text : String)
  deriving DecidableEq, Repr

namespace Notice

/-- The line that separates parts of the output. -/
def rule : String := String.ofList (List.replicate 60 '─')

/-- The text of a notice, with its line break. An event that the filter drops has no text. -/
def render (filter : Log.Filter) (color : Bool) : Notice → String
  | status kind text => Style.paint color kind.style kind.mark ++ " " ++ text ++ "\n"
  | generated script tree =>
    Style.paint color Status.success.style Status.success.mark ++ " " ++
      Style.paint color .dimmed script ++ " " ++ Style.paint color .cyan "->" ++ " " ++ tree ++ "\n"
  | header title =>
    "\n" ++ Style.paint color .dimmed rule ++ "\n  " ++ Style.paint color .bold title ++ "\n" ++
      Style.paint color .dimmed rule ++ "\n\n"
  | separator => Style.paint color .dimmed rule ++ "\n"
  | table t => t.render ++ "\n"
  | event e => if filter.shows e then e.render else ""
  | verbatim text => text

/-- The text of a list of notices. -/
def renderAll (filter : Log.Filter) (color : Bool) (notices : List Notice) : String :=
  String.join (notices.map (render filter color))

end Notice

end Fixtures
