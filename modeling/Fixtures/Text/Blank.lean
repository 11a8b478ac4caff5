import Fixtures.Text.Pieces

/-!
# White space

The characters with the Unicode property White_Space, the words between them, and text without the
white space at its end. A zero width space has not that property.
-/

namespace Fixtures.Text

/-- Characters with the property White_Space. -/
def isBlank (c : Char) : Bool :=
  let n := c.toNat
  (0x09 ≤ n && n ≤ 0x0D) || n == 0x20 || n == 0x85 || n == 0xA0 || n == 0x1680 ||
    (0x2000 ≤ n && n ≤ 0x200A) || n == 0x2028 || n == 0x2029 || n == 0x202F || n == 0x205F ||
    n == 0x3000

/-- The words of a text: its longest parts without white space, in order. -/
def words (text : String) : List String := (solidPieces isBlank text.toList).map String.ofList

/-- The text without the white space at its end. -/
def trimEnd (text : String) : String :=
  String.ofList (text.toList.reverse.dropWhile isBlank).reverse

end Fixtures.Text
