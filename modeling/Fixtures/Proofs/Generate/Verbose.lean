import Mathlib
import Fixtures.Proofs.Batch.Accounting
import Fixtures.Proofs.Generate.Delivery
import Fixtures.Proofs.Options.Verbose

/-!
# Commands with and without an echo

A command line that asks for an echo is accepted without the flag, in whichever way the flag is
written, and one that does not is accepted with the flag in front. The two commands end alike, make
the same calls, leave the same files and show the same by default on standard error, which is no
terminal. They differ only in what is echoed: the captured output of all calls in their order, byte
for byte, where a call that could not be started has none; or nothing. The one thing besides an echo
that a command writes to standard output is its report, if the path of the report leads there.
-/

namespace Fixtures

namespace Generate

open Batch

/-- A command with an echo into the writer `start`, beside the same command without one. In both the
bytes `printed` follow. -/
structure EchoedBefore (start : Writer) (printed : Bytes) (loud quiet : Progress Unit) : Prop
    extends Alike loud quiet where
  /-- The one with an echo has stored the output of its calls and the printed bytes. -/
  stored : loud.world.writer =
    start.storing (loud.attempts.flatMap Attempt.output ++ printed)
  /-- The one without an echo has stored only the printed bytes. -/
  silent : quiet.world.writer = start.storing printed

/-- Where nothing is called and the world stays as it is, nothing is echoed or printed. -/
theorem EchoedBefore.idle (value : Except Failure Unit) (world : World) (notices : List Notice) :
    EchoedBefore world.writer [] ⟨value, world, [], notices⟩ ⟨value, world, [], notices⟩ :=
  ⟨⟨rfl, rfl, rfl, rfl⟩, (Writer.storing_nil _).symm, (Writer.storing_nil _).symm⟩

end Generate

end Fixtures
