import Fixtures.Proofs.Options.Grammar
import Fixtures.Proofs.Settings

/-!
# The flag for an echo

The flag is written with its long name, with its short name, or in front of other short names. A
command line with the flag is accepted without it, in whichever way it was written, and one without
it is accepted with it in front; the two ask for the same apart from the echo.
-/

namespace Fixtures.Options

/-- A command line that gives the flag for an echo, and the same one without it. -/
inductive Muted : List Bytes → List Bytes → Prop
  /-- The flag has its long name. -/
  | long (before after : List Bytes) :
    Muted (before ++ flagArgument .verbose :: after) (before ++ after)
  /-- The flag has its short name. -/
  | short (before after : List Bytes) : Muted (before ++ [0x2D, 0x76] :: after) (before ++ after)
  /-- The short name stands in front of others. -/
  | glued (before after : List Bytes) {letter : UInt8} (hletter : letter ≠ 0x2D) (letters : Bytes) :
    Muted (before ++ (0x2D :: 0x76 :: letter :: letters) :: after)
      (before ++ (0x2D :: letter :: letters) :: after)

/-- What stands in front of a command line stays when the flag is taken out. -/
theorem Muted.append {loud quiet : List Bytes} (h : Muted loud quiet) (words : List Bytes) :
    Muted (words ++ loud) (words ++ quiet) := by
  cases h with
  | long before after =>
    rw [← List.append_assoc, ← List.append_assoc]
    exact .long (words ++ before) after
  | short before after =>
    rw [← List.append_assoc, ← List.append_assoc]
    exact .short (words ++ before) after
  | glued before after hletter letters =>
    rw [← List.append_assoc, ← List.append_assoc]
    exact .glued (words ++ before) after hletter letters

end Fixtures.Options
