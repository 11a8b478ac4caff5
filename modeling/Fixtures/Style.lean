/-!
# Styled text

A style opens with an escape sequence and is closed by the reset sequence. A reset inside a styled
text would end the style early, so each one is followed by the opening sequence again.
-/

namespace Fixtures

/-- The styles of status lines. -/
inductive Style where
  | boldGreen
  | boldRed
  | boldYellow
  | boldBlue
  | bold
  | dimmed
  | cyan
  deriving DecidableEq, Repr

namespace Style

/-- The attribute numbers of a style. -/
def code : Style → String
  | boldGreen => "1;32"
  | boldRed => "1;31"
  | boldYellow => "1;33"
  | boldBlue => "1;34"
  | bold => "1"
  | dimmed => "2"
  | cyan => "36"

/-- The sequence that ends every style. -/
def reset : String := "\x1b[0m"

/-- The sequence that starts a style. -/
def opening (style : Style) : String := "\x1b[" ++ style.code ++ "m"

/-- The text with `extra` after each reset sequence in it. -/
def afterResets (extra : List Char) : List Char → List Char
  | '\x1b' :: '[' :: '0' :: 'm' :: rest => reset.toList ++ extra ++ afterResets extra rest
  | c :: rest => c :: afterResets extra rest
  | [] => []

/-- The text in a style, or as it is where colours are off. -/
def paint (color : Bool) (style : Style) (text : String) : String :=
  if color then
    style.opening ++ String.ofList (afterResets style.opening.toList text.toList) ++ reset
  else
    text

end Style

end Fixtures
