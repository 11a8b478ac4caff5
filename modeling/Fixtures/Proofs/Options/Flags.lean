import Fixtures.Proofs.Options.Reading

/-!
# Flags on the command line

A flag stands in one place of what was given, and reading the other arguments never looks at it,
other than to refuse it a second time. So a command line that is accepted with a flag is accepted
without it, and asks for the same apart from the flag.
-/

namespace Fixtures

namespace Options

namespace Given

/-- A flag that is set is the one that was given. -/
theorem hasFlag_setFlag (given : Given) (flag : Flag) (on : Bool) (other : Flag) :
    (given.setFlag flag on).hasFlag other = if other = flag then on else given.hasFlag other := by
  cases flag <;> cases other <;> rfl

/-- Setting a flag to what it is changes nothing. -/
theorem setFlag_of_hasFlag {given : Given} {flag : Flag} {on : Bool} (h : given.hasFlag flag = on) :
    given.setFlag flag on = given := by
  subst h
  cases flag <;> rfl

/-- The last word on a flag counts. -/
theorem setFlag_setFlag (given : Given) (flag : Flag) (on off : Bool) :
    (given.setFlag flag on).setFlag flag off = given.setFlag flag off := by
  cases flag <;> rfl

/-- Two flags are set in either order. -/
theorem setFlag_comm (given : Given) {flag other : Flag} (h : flag ≠ other) (on off : Bool) :
    (given.setFlag flag on).setFlag other off = (given.setFlag other off).setFlag flag on := by
  cases flag <;> cases other <;> simp [setFlag] at h ⊢

end Given

/-- Taking back a flag that was given is not noticed. -/
theorem setFlag_unnoticed (flag : Flag) :
    Unnoticed (fun given => given.hasFlag flag = true) (·.setFlag flag false) where
  has {given} _ setting := by cases flag <;> cases setting <;> rfl
  assign {given out} h setting raw _ hassign := by
    cases setting with
    | _ =>
      obtain ⟨value, hvalue, rfl⟩ := map_eq_ok_iff.mp hassign
      cases flag <;> exact ⟨h, map_eq_ok_iff.mpr ⟨value, hvalue, rfl⟩⟩
  acceptFlag {given out} h other haccept := by
    obtain ⟨hfirst, rfl⟩ := Given.acceptFlag_eq_ok_iff.mp haccept
    have hne : other ≠ flag := by
      rintro rfl
      cases hfirst.symm.trans h
    refine ⟨by rw [Given.hasFlag_setFlag, if_neg hne.symm, h], Given.acceptFlag_eq_ok_iff.mpr
      ⟨?_, (Given.setFlag_comm given hne.symm false true)⟩⟩
    rw [Given.hasFlag_setFlag, if_neg hne, hfirst]

/-- The argument for a flag. -/
def flagArgument (flag : Flag) : Bytes := Utf8.encode flag.label

/-- A flag settles what is open and is taken. -/
theorem readArgument_flag (given : Given) (pending : Pending) (flag : Flag) :
    readArgument given pending (flagArgument flag) =
      (pending.settle given).bind fun g =>
        (orRefuse (g.acceptFlag flag)).map fun g => (g, .nothing) := by
  obtain ⟨name, hword, hname, hvalue, hflag⟩ : ∃ name, flagArgument flag = 0x2D :: 0x2D :: name ∧
      name.takeWhile (· != 0x3D) = name ∧ name.dropWhile (· != 0x3D) = [] ∧
      (Utf8.text? name).bind Switch.ofLong? = some (.flag flag) := by
    refine ⟨(flagArgument flag).drop 2, ?_⟩
    cases flag <;> decide +kernel
  rw [hword, readArgument, readLong]
  simp only [hname, hvalue, hflag]

/-- The argument for a flag settles what is open and sets the flag, which must be the first of its
kind. -/
theorem readArguments_flag_eq_ok_iff {given out : Given} {pending : Pending} {flag : Flag}
    {rest : List Bytes} :
    readArguments given pending (flagArgument flag :: rest) = .ok out ↔
      ∃ settled, pending.settle given = .ok settled ∧ settled.hasFlag flag = false ∧
        readArguments (settled.setFlag flag true) .nothing rest = .ok out := by
  have hend : flagArgument flag ≠ [0x2D, 0x2D] := by cases flag <;> decide +kernel
  rw [readArguments_cons_eq_ok_iff hend, readArgument_flag]
  simp only [bind_eq_ok_iff, map_eq_ok_iff, orRefuse_eq_ok_iff, Given.acceptFlag_eq_ok_iff]
  constructor
  · rintro ⟨_, ⟨settled, hsettle, _, ⟨hfirst, rfl⟩, rfl⟩, hrest⟩
    exact ⟨settled, hsettle, hfirst, hrest⟩
  · rintro ⟨settled, hsettle, hfirst, hrest⟩
    exact ⟨_, ⟨settled, hsettle, _, ⟨hfirst, rfl⟩, rfl⟩, hrest⟩

/-- A flag that is read was given, and without it the other arguments lead to the same apart from
it. -/
theorem readArguments_withoutFlag {given out : Given} {pending : Pending} {flag : Flag}
    {after : List Bytes} (h : readArguments given pending (flagArgument flag :: after) = .ok out) :
    out.hasFlag flag = true ∧
      readArguments given pending after = .ok (out.setFlag flag false) := by
  obtain ⟨settled, hsettle, hfirst, hafter⟩ := readArguments_flag_eq_ok_iff.mp h
  have hkept : (settled.setFlag flag true).hasFlag flag = true := by
    rw [Given.hasFlag_setFlag, if_pos rfl]
  obtain ⟨hflag, hwithout⟩ := (readArguments_action .nothing after).unnoticed
    (setFlag_unnoticed flag) hkept hafter
  rw [Given.setFlag_setFlag, Given.setFlag_of_hasFlag hfirst] at hwithout
  exact ⟨hflag, (readArguments_of_settle hsettle).mpr hwithout⟩

/-- A command line that is accepted with a flag is accepted without it, and asks for the same apart
from the flag. -/
theorem parse_withoutFlag {environment : Environment} {flag : Flag} {before after : List Bytes}
    {request : Request}
    (h : parse environment (before ++ flagArgument flag :: after) = .ok request) :
    ∃ given : Given, given.hasFlag flag = true ∧ given.request = request ∧
      parse environment (before ++ after) = .ok (given.setFlag flag false).request := by
  have hwords : [flagArgument flag] ≠ [] := List.cons_ne_nil _ _
  have hhere : ∀ {given out : Given} {pending : Pending},
      readArguments given pending ([flagArgument flag] ++ after) = .ok out →
        out.hasFlag flag = true ∧
          readArguments given pending ([] ++ after) = .ok (out.setFlag flag false) :=
    readArguments_withoutFlag
  exact parse_exchange (setFlag_unnoticed flag) hwords hhere h

end Options

end Fixtures
