import Fixtures.Proofs.Options.Reading
import Fixtures.Proofs.Settings

/-!
# The policy on the command line

The policy stands in one place of what was given, and reading the other arguments never looks at it.
So a command line that is accepted with one policy is accepted with every other one in its place,
and asks for the same apart from the policy.
-/

namespace Fixtures.Options

/-- What was given, with another policy. -/
def Given.withPolicy (given : Given) (policy : Policy) : Given :=
  { given with onFailure := some policy }

/-- The arguments for a policy: a word with its value, or an option and its value. -/
def policyArguments (joined : Bool) (policy : Policy) : List Bytes :=
  if joined then [Utf8.encode ("--on-failure=" ++ policy.name)]
  else [Utf8.encode "--on-failure", Utf8.encode policy.name]

/-- Another policy in the place of one that was given is not noticed. -/
theorem withPolicy_unnoticed (policy other : Policy) :
    Unnoticed (fun given => given.onFailure = some policy) (·.withPolicy other) where
  has {given} h setting := by
    cases setting with
    | onFailure => simp [Given.has, Given.withPolicy, h]
    | _ => rfl
  assign {given out} h setting raw hfirst hassign := by
    cases setting with
    | onFailure => simp [Given.has, h] at hfirst
    | _ =>
      obtain ⟨value, hvalue, rfl⟩ := map_eq_ok_iff.mp hassign
      exact ⟨h, map_eq_ok_iff.mpr ⟨value, hvalue, rfl⟩⟩
  acceptFlag {given out} h flag haccept := by
    obtain ⟨hfirst, rfl⟩ := Given.acceptFlag_eq_ok_iff.mp haccept
    cases flag <;> exact ⟨h, Given.acceptFlag_eq_ok_iff.mpr ⟨hfirst, rfl⟩⟩

/-- The name of a policy is taken as that policy, if none was given before. -/
theorem Given.accept_policy_eq_ok_iff {given out : Given} {policy : Policy} :
    given.accept .onFailure (Utf8.encode policy.name) = .ok out ↔
      given.has .onFailure = false ∧ given.withPolicy policy = out := by
  have hname : (Utf8.text? (Utf8.encode policy.name)).bind Policy.ofName? = some policy := by
    cases policy <;> decide +kernel
  have hassign : given.assign .onFailure (Utf8.encode policy.name) =
      .ok (given.withPolicy policy) := by
    simp only [assign, Given.policy, hname]
    rfl
  rw [accept, hassign]
  cases given.has .onFailure <;> simp

/-- The long name of the policy. -/
theorem ofLong?_onFailure :
    (Utf8.text? (Utf8.encode "on-failure")).bind Switch.ofLong? = some (.setting .onFailure) := by
  decide +kernel

/-- A policy that is written with its option in one word. -/
theorem readArgument_policy_joined (given : Given) (pending : Pending) (policy : Policy) :
    readArgument given pending (Utf8.encode ("--on-failure=" ++ policy.name)) =
      (pending.settle given).bind fun g =>
        (orRefuse (g.accept .onFailure (Utf8.encode policy.name))).map fun g => (g, .nothing) := by
  have hword : Utf8.encode ("--on-failure=" ++ policy.name) =
      0x2D :: 0x2D :: Utf8.encode ("on-failure=" ++ policy.name) := by
    cases policy <;> decide +kernel
  have hname : (Utf8.encode ("on-failure=" ++ policy.name)).takeWhile (· != 0x3D) =
      Utf8.encode "on-failure" := by
    cases policy <;> decide +kernel
  have hvalue : (Utf8.encode ("on-failure=" ++ policy.name)).dropWhile (· != 0x3D) =
      0x3D :: Utf8.encode policy.name := by
    cases policy <;> decide +kernel
  rw [hword, readArgument, readLong]
  simp only [hname, hvalue, ofLong?_onFailure]

/-- The option for a policy awaits its value. -/
theorem readArgument_policy_option (given : Given) (pending : Pending) :
    readArgument given pending (Utf8.encode "--on-failure") =
      (pending.settle given).map fun g => (g, .awaiting .onFailure) := by
  have hword : Utf8.encode "--on-failure" = 0x2D :: 0x2D :: Utf8.encode "on-failure" := by
    decide +kernel
  have hname : (Utf8.encode "on-failure").takeWhile (· != 0x3D) = Utf8.encode "on-failure" := by
    decide +kernel
  have hvalue : (Utf8.encode "on-failure").dropWhile (· != 0x3D) = [] := by decide +kernel
  rw [hword, readArgument, readLong]
  simp only [hname, hvalue, ofLong?_onFailure]

/-- The name of a policy is held as the value of its option. -/
theorem readArgument_policy_value (given : Given) (policy : Policy) :
    readArgument given (.awaiting .onFailure) (Utf8.encode policy.name) =
      .ok (given, .holding .onFailure (Utf8.encode policy.name)) := by
  cases policy <;> rfl

/-- The arguments for a policy settle what is open and set the policy, which must be the first. -/
theorem readArguments_policy_eq_ok_iff {given out : Given} {pending : Pending} {joined : Bool}
    {policy : Policy} {rest : List Bytes} :
    readArguments given pending (policyArguments joined policy ++ rest) = .ok out ↔
      ∃ settled, pending.settle given = .ok settled ∧ settled.has .onFailure = false ∧
        readArguments (settled.withPolicy policy) .nothing rest = .ok out := by
  cases joined with
  | true =>
    have hend : Utf8.encode ("--on-failure=" ++ policy.name) ≠ [0x2D, 0x2D] := by
      cases policy <;> decide +kernel
    have hwords : policyArguments true policy ++ rest =
        Utf8.encode ("--on-failure=" ++ policy.name) :: rest := rfl
    rw [hwords, readArguments_cons_eq_ok_iff hend, readArgument_policy_joined]
    simp only [bind_eq_ok_iff, map_eq_ok_iff, orRefuse_eq_ok_iff, Given.accept_policy_eq_ok_iff]
    constructor
    · rintro ⟨_, ⟨settled, hsettle, _, ⟨hfirst, rfl⟩, rfl⟩, hrest⟩
      exact ⟨settled, hsettle, hfirst, hrest⟩
    · rintro ⟨settled, hsettle, hfirst, hrest⟩
      exact ⟨_, ⟨settled, hsettle, _, ⟨hfirst, rfl⟩, rfl⟩, hrest⟩
  | false =>
    have hend : Utf8.encode "--on-failure" ≠ [0x2D, 0x2D] := by decide +kernel
    have hend' : Utf8.encode policy.name ≠ [0x2D, 0x2D] := by cases policy <;> decide +kernel
    have hwords : policyArguments false policy ++ rest =
        Utf8.encode "--on-failure" :: Utf8.encode policy.name :: rest := rfl
    rw [hwords, readArguments_cons_eq_ok_iff hend, readArgument_policy_option]
    simp only [map_eq_ok_iff, readArguments_cons_eq_ok_iff hend']
    constructor
    · rintro ⟨_, ⟨settled, hsettle, rfl⟩, _, hvalue, hrest⟩
      rw [readArgument_policy_value] at hvalue
      cases hvalue
      obtain ⟨_, haccept, hrest⟩ := readArguments_holding_eq_ok_iff.mp hrest
      obtain ⟨hfirst, rfl⟩ := Given.accept_policy_eq_ok_iff.mp haccept
      exact ⟨settled, hsettle, hfirst, hrest⟩
    · rintro ⟨settled, hsettle, hfirst, hrest⟩
      exact ⟨_, ⟨settled, hsettle, rfl⟩, _, readArgument_policy_value settled policy,
        readArguments_holding_eq_ok_iff.mpr
          ⟨_, Given.accept_policy_eq_ok_iff.mpr ⟨hfirst, rfl⟩, hrest⟩⟩

/-- A policy that is read is the one that was given, and in its place every other one leads to the
same apart from it. -/
theorem readArguments_withPolicy {given out : Given} {pending : Pending} {joined : Bool}
    {policy : Policy} {after : List Bytes}
    (h : readArguments given pending (policyArguments joined policy ++ after) = .ok out)
    (other : Policy) :
    out.onFailure = some policy ∧
      readArguments given pending (policyArguments joined other ++ after) =
        .ok (out.withPolicy other) := by
  obtain ⟨settled, hsettle, hfirst, hafter⟩ := readArguments_policy_eq_ok_iff.mp h
  have hkept : (settled.withPolicy policy).onFailure = some policy := rfl
  obtain ⟨hpolicy, hother⟩ := (readArguments_action .nothing after).unnoticed
    (withPolicy_unnoticed policy other) hkept hafter
  exact ⟨hpolicy, readArguments_policy_eq_ok_iff.mpr ⟨settled, hsettle, hfirst, hother⟩⟩

/-- A command line that is accepted with a policy asks for that policy. With another one in its
place it is accepted too, and asks for the same apart from the policy. -/
theorem parse_withPolicy {environment : Environment} {joined : Bool} {policy : Policy}
    {before after : List Bytes} {request : Request}
    (h : parse environment (before ++ (policyArguments joined policy ++ after)) = .ok request)
    (other : Policy) :
    request.settings.onFailure = policy ∧
      parse environment (before ++ (policyArguments joined other ++ after)) =
        .ok (request.withPolicy other) := by
  have hwords : policyArguments joined policy ≠ [] := by cases joined <;> simp [policyArguments]
  obtain ⟨given, hpolicy, rfl, hother⟩ := parse_exchange (withPolicy_unnoticed policy other) hwords
    (fun hout => readArguments_withPolicy hout other) h
  exact ⟨by simp [Given.request, hpolicy], hother⟩

end Fixtures.Options
