import Fixtures.Options.Parse
import Fixtures.Proofs.Computation

/-!
# What reading arguments does

Whatever is read, what was given changes by a few elementary actions: a flag is taken, the value of
a setting is taken, or a variable stands in. A change to what was given that no elementary action
notices is therefore noticed by no arguments, and an argument can be exchanged or left out where
only such a change comes of it.
-/

namespace Fixtures.Options

/-- What is not refused came through. -/
theorem orRefuse_eq_ok_iff {α : Type} {x : Except UsageError α} {a : α} :
    orRefuse x = .ok a ↔ x = .ok a := by
  cases x <;> simp [orRefuse, refuse]

/-- What was given, with a flag on or off. -/
def Given.setFlag (given : Given) (flag : Flag) (on : Bool) : Given :=
  match flag with
  | .verbose => { given with verbose := on }
  | .skipUpToDate => { given with skipUpToDate := on }
  | .dryRun => { given with dryRun := on }

/-- A flag is taken if it was not given before. -/
theorem Given.acceptFlag_eq_ok_iff {given out : Given} {flag : Flag} :
    given.acceptFlag flag = .ok out ↔
      given.hasFlag flag = false ∧ given.setFlag flag true = out := by
  unfold acceptFlag
  cases given.hasFlag flag <;> cases flag <;> simp [setFlag]

/-- What can be done to what was given, one elementary action after another. -/
inductive Action : (Given → Except Stop Given) → Prop
  /-- All is refused. -/
  | error (stop : Stop) : Action fun _ => .error stop
  /-- Nothing is done. -/
  | ok : Action .ok
  /-- A flag is taken. -/
  | flag (flag : Flag) : Action fun given => orRefuse (given.acceptFlag flag)
  /-- The value of a setting is taken. -/
  | setting (setting : Setting) (raw : Bytes) :
    Action fun given => orRefuse (given.accept setting raw)
  /-- A variable stands in for a setting. -/
  | standIn (setting : Setting) (value : Option Bytes) :
    Action fun given => standIn given setting value
  /-- One action follows another. -/
  | bind {first second : Given → Except Stop Given} (hfirst : Action first)
    (hsecond : Action second) : Action fun given => (first given).bind second

/-- Looking at a held value is an action. -/
theorem Action.settle (pending : Pending) : Action pending.settle :=
  match pending with
  | .nothing => ok
  | .awaiting _ => error _
  | .holding held raw => setting held raw

/-- Taking the environment for what was not given is an action. -/
theorem Action.completed (environment : Environment) : Action (completed environment) :=
  (standIn .dir environment.dir).bind
    ((standIn .exe environment.exe).bind (standIn .launcher environment.launcher))

/-- A change to what was given that the elementary actions do not notice, as long as it keeps some
property. -/
structure Unnoticed (keeps : Given → Prop) (change : Given → Given) : Prop where
  /-- The same settings were given. -/
  has {given : Given} (h : keeps given) (setting : Setting) :
    (change given).has setting = given.has setting
  /-- A setting that was not given is assigned in the same way. -/
  assign {given out : Given} (h : keeps given) {setting : Setting} {raw : Bytes}
    (hfirst : given.has setting = false) (hassign : given.assign setting raw = .ok out) :
    keeps out ∧ (change given).assign setting raw = .ok (change out)
  /-- A flag is taken in the same way. -/
  acceptFlag {given out : Given} (h : keeps given) {flag : Flag}
    (haccept : given.acceptFlag flag = .ok out) :
    keeps out ∧ (change given).acceptFlag flag = .ok (change out)

/-- No action notices what the elementary ones do not. -/
theorem Action.unnoticed {keeps : Given → Prop} {change : Given → Given}
    (h : Unnoticed keeps change) {act : Given → Except Stop Given} (hact : Action act)
    {given out : Given} (hgiven : keeps given) (hout : act given = .ok out) :
    keeps out ∧ act (change given) = .ok (change out) := by
  induction hact generalizing given out with
  | error stop => cases hout
  | ok =>
    cases hout
    exact ⟨hgiven, rfl⟩
  | flag flag =>
    simp only [orRefuse_eq_ok_iff] at hout ⊢
    exact h.acceptFlag hgiven hout
  | setting setting raw =>
    simp only [orRefuse_eq_ok_iff, Given.accept, h.has hgiven] at hout ⊢
    cases hfirst : given.has setting with
    | true => simp [hfirst] at hout
    | false =>
      simp only [hfirst, Bool.false_eq_true, ite_false] at hout ⊢
      exact h.assign hgiven hfirst hout
  | standIn setting value =>
    cases value with
    | none =>
      cases hout
      exact ⟨hgiven, rfl⟩
    | some raw =>
      simp only [Options.standIn, h.has hgiven] at hout ⊢
      cases hfirst : given.has setting with
      | true =>
        simp only [hfirst, ite_true, Except.ok.injEq] at hout ⊢
        subst hout
        exact ⟨hgiven, rfl⟩
      | false =>
        simp only [hfirst, Bool.false_eq_true, ite_false, orRefuse_eq_ok_iff] at hout ⊢
        exact h.assign hgiven hfirst hout
  | bind _ _ ihfirst ihsecond =>
    obtain ⟨between, hbetween, hrest⟩ := bind_eq_ok_iff.mp hout
    obtain ⟨hkept, hfirst⟩ := ihfirst hgiven hbetween
    obtain ⟨hkept, hsecond⟩ := ihsecond hkept hrest
    exact ⟨hkept, bind_eq_ok_iff.mpr ⟨_, hfirst, hsecond⟩⟩

/-- A way to read an argument. It is refused, or it is an option: then what is open is settled
first, and what is done after that and what is left open depend on the argument alone. Or it is a
value, which only a setting that awaits one takes. -/
inductive Reading (read : Given → Pending → Except Stop (Given × Pending)) : Prop
  /-- The argument is refused. -/
  | refused (stop : Stop) (h : ∀ given pending, read given pending = .error stop)
  /-- The argument is an option. -/
  | taken (act : Given → Except Stop Given) (left : Pending) (hact : Action act)
    (h : ∀ given pending, read given pending =
      (pending.settle given).bind fun g => (act g).map fun g => (g, left))
  /-- The argument is a value. -/
  | value (raw : Bytes) (stop : Stop)
    (hawaited : ∀ given setting, read given (.awaiting setting) = .ok (given, .holding setting raw))
    (hfree : ∀ given pending, (∀ setting, pending ≠ .awaiting setting) →
      read given pending = .error stop)

namespace Reading

variable {read : Given → Pending → Except Stop (Given × Pending)}

/-- Reading an argument is an action, and what it leaves open does not depend on what was given. -/
theorem action (h : Reading read) (pending : Pending) :
    ∃ act left, Action act ∧
      ∀ given, read given pending = (act given).map fun g => (g, left) := by
  cases h with
  | refused stop h => exact ⟨_, .nothing, .error stop, fun given => h given pending⟩
  | taken act left hact h =>
    refine ⟨_, left, .bind (.settle pending) hact, fun given => ?_⟩
    rw [h]
    cases pending.settle given <;> rfl
  | value raw stop hawaited hfree =>
    cases pending with
    | awaiting setting => exact ⟨_, .holding setting raw, .ok, fun given => hawaited given setting⟩
    | nothing => exact ⟨_, .nothing, .error stop, fun given => hfree given _ nofun⟩
    | holding _ _ => exact ⟨_, .nothing, .error stop, fun given => hfree given _ nofun⟩

/-- A held value may as well be looked at before the next argument is read, if all goes well. -/
theorem holding_eq_ok_iff (h : Reading read) {given : Given} {setting : Setting} {raw : Bytes}
    {next : Given × Pending} :
    read given (.holding setting raw) = .ok next ↔
      ∃ settled, given.accept setting raw = .ok settled ∧ read settled .nothing = .ok next := by
  cases h with
  | refused stop h => simp [h]
  | taken act left hact h =>
    rw [h, bind_eq_ok_iff]
    simp only [Pending.settle, orRefuse_eq_ok_iff, h]
    rfl
  | value raw stop hawaited hfree => simp [hfree]

end Reading

/-- A long option is refused or settles what is open. -/
theorem readLong_reading (body : Bytes) :
    Reading fun given pending => readLong given pending body := by
  simp only [readLong]
  generalize (Utf8.text? (body.takeWhile (· != 0x3D))).bind Switch.ofLong? = switch
  generalize body.dropWhile (· != 0x3D) = value
  cases switch with
  | none => exact .refused _ fun _ _ => rfl
  | some switch =>
    cases switch with
    | flag flag =>
      cases value with
      | nil => exact .taken _ .nothing (.flag flag) fun _ _ => rfl
      | cons _ raw => exact .refused _ fun _ _ => rfl
    | setting setting =>
      cases value with
      | nil =>
        refine .taken _ (.awaiting setting) .ok fun given pending => ?_
        cases pending.settle given <;> rfl
      | cons _ raw => exact .taken _ .nothing (.setting setting raw) fun _ _ => rfl
    | help =>
      cases value with
      | nil => exact .taken _ .nothing (.error (.help true)) fun _ _ => rfl
      | cons _ raw => exact .refused _ fun _ _ => rfl
    | version =>
      cases value with
      | nil => exact .taken _ .nothing (.error .version) fun _ _ => rfl
      | cons _ raw => exact .refused _ fun _ _ => rfl

/-- A first letter before letters that only act. -/
theorem readShorts_cons_reading {letters : Bytes}
    (h : ∃ act left, Action act ∧
      ∀ given, readShorts given .nothing letters = (act given).map fun g => (g, left))
    (letter : UInt8) :
    Reading fun given pending => readShorts given pending (letter :: letters) := by
  simp only [readShorts]
  cases Switch.ofShort? letter with
  | none => exact .refused _ fun _ _ => rfl
  | some switch =>
    cases switch with
    | flag flag =>
      obtain ⟨act, left, hact, hletters⟩ := h
      refine .taken _ left (.bind (.flag flag) hact) fun given pending => ?_
      cases pending.settle given with
      | error stop => rfl
      | ok settled =>
        simp only [Except.bind]
        cases orRefuse (settled.acceptFlag flag) with
        | error stop => rfl
        | ok taken => exact hletters taken
    | setting setting =>
      by_cases hletters : letters = []
      · simp only [hletters, ite_true]
        exact .taken _ (.awaiting setting) .ok fun _ _ => rfl
      · simp only [hletters, ite_false]
        exact .taken _ .nothing (.setting setting (attached letters)) fun _ _ => rfl
    | help => exact .taken _ .nothing (.error (.help false)) fun _ _ => rfl
    | version => exact .taken _ .nothing (.error .version) fun _ _ => rfl

/-- A group of short names is refused or settles what is open. -/
theorem readShorts_reading (letter : UInt8) (letters : Bytes) :
    Reading fun given pending => readShorts given pending (letter :: letters) := by
  refine readShorts_cons_reading ?_ letter
  induction letters with
  | nil => exact ⟨_, .nothing, .ok, fun _ => rfl⟩
  | cons next letters ih => exact (readShorts_cons_reading ih next).action .nothing

/-- An argument that does not start as an option is a value. -/
theorem readArgument_value {argument : Bytes}
    (h : ∀ letter letters, argument ≠ 0x2D :: letter :: letters) :
    Reading fun given pending => readArgument given pending argument := by
  refine .value argument (.usage (.unexpectedArgument (Utf8.lossy argument)))
    (fun given setting => ?_) (fun given pending hfree => ?_)
  · unfold readArgument
    split
    · exact absurd rfl (h _ _)
    · exact absurd rfl (h _ _)
    · rfl
  · unfold readArgument
    split
    · exact absurd rfl (h _ _)
    · exact absurd rfl (h _ _)
    · cases pending with
      | awaiting setting => exact absurd rfl (hfree setting)
      | nothing => rfl
      | holding _ _ => rfl

/-- Each argument is refused, an option or a value. -/
theorem readArgument_reading (argument : Bytes) :
    Reading fun given pending => readArgument given pending argument := by
  by_cases hoption : ∃ letter letters, argument = 0x2D :: letter :: letters
  · obtain ⟨letter, letters, rfl⟩ := hoption
    by_cases hlong : letter = 0x2D
    · subst hlong
      exact readLong_reading letters
    · have hshorts : ∀ given pending, readArgument given pending (0x2D :: letter :: letters) =
          readShorts given pending (letter :: letters) := by
        intro given pending
        rw [readArgument]
        exact hlong
      simp only [hshorts]
      exact readShorts_reading letter letters
  · exact readArgument_value fun letter letters heq => hoption ⟨letter, letters, heq⟩

/-- Arguments after one that is not the end mark. -/
theorem readArguments_cons_eq_ok_iff {given out : Given} {pending : Pending} {argument : Bytes}
    {rest : List Bytes} (h : argument ≠ [0x2D, 0x2D]) :
    readArguments given pending (argument :: rest) = .ok out ↔
      ∃ next, readArgument given pending argument = .ok next ∧
        readArguments next.1 next.2 rest = .ok out := by
  rw [readArguments.eq_def]
  simp only [if_neg h]
  cases readArgument given pending argument <;> simp

/-- Nothing can follow the end mark. -/
theorem readArguments_endMark_ne_ok {given out : Given} {pending : Pending} {extra : Bytes}
    {rest : List Bytes} :
    readArguments given pending ([0x2D, 0x2D] :: extra :: rest) ≠ .ok out := by
  simp [readArguments, refuse]

/-- Reading arguments is an action. -/
theorem readArguments_action (pending : Pending) (arguments : List Bytes) :
    Action fun given => readArguments given pending arguments := by
  induction arguments generalizing pending with
  | nil => exact .settle pending
  | cons argument rest ih =>
    by_cases hend : argument = [0x2D, 0x2D]
    · subst hend
      cases rest with
      | nil => exact .settle pending
      | cons extra rest => exact .error _
    · obtain ⟨act, left, hact, hread⟩ := (readArgument_reading argument).action pending
      have hrest : ∀ given, readArguments given pending (argument :: rest) =
          (act given).bind fun g => readArguments g left rest := by
        intro given
        rw [readArguments.eq_def]
        simp only [if_neg hend, hread]
        cases act given <;> rfl
      simp only [hrest]
      exact hact.bind (ih left)

/-- A held value may as well be looked at before the other arguments, if all goes well. -/
theorem readArguments_holding_eq_ok_iff {given out : Given} {setting : Setting} {raw : Bytes}
    {arguments : List Bytes} :
    readArguments given (.holding setting raw) arguments = .ok out ↔
      ∃ settled, given.accept setting raw = .ok settled ∧
        readArguments settled .nothing arguments = .ok out := by
  cases arguments with
  | nil => simp [readArguments, Pending.settle, orRefuse_eq_ok_iff]
  | cons argument rest =>
    by_cases hend : argument = [0x2D, 0x2D]
    · subst hend
      cases rest with
      | nil => simp [readArguments, Pending.settle, orRefuse_eq_ok_iff]
      | cons extra rest => simp [readArguments_endMark_ne_ok]
    · simp only [readArguments_cons_eq_ok_iff hend,
        (readArgument_reading argument).holding_eq_ok_iff]
      constructor
      · rintro ⟨next, ⟨settled, haccept, hread⟩, hrest⟩
        exact ⟨settled, haccept, next, hread, hrest⟩
      · rintro ⟨settled, haccept, next, hread, hrest⟩
        exact ⟨next, ⟨settled, haccept, hread⟩, hrest⟩

/-- What is open may as well be settled before the other arguments, if all goes well. -/
theorem readArguments_of_settle {given settled out : Given} {pending : Pending}
    {arguments : List Bytes} (h : pending.settle given = .ok settled) :
    readArguments given pending arguments = .ok out ↔
      readArguments settled .nothing arguments = .ok out := by
  cases pending with
  | nothing =>
    cases h
    rfl
  | awaiting setting => cases h
  | holding setting raw =>
    have haccept := orRefuse_eq_ok_iff.mp h
    simp [readArguments_holding_eq_ok_iff, haccept]

section Exchange

variable {keeps : Given → Prop} {change : Given → Given} {words others after : List Bytes}

/-- Words that can be exchanged for others where they stand can be exchanged behind all other
arguments. -/
theorem readArguments_exchange (hwords : words ≠ [])
    (hhere : ∀ {given out : Given} {pending : Pending},
      readArguments given pending (words ++ after) = .ok out →
        keeps out ∧ readArguments given pending (others ++ after) = .ok (change out))
    {given out : Given} {pending : Pending} {before : List Bytes}
    (h : readArguments given pending (before ++ (words ++ after)) = .ok out) :
    keeps out ∧ readArguments given pending (before ++ (others ++ after)) = .ok (change out) := by
  induction before generalizing given pending with
  | nil => exact hhere h
  | cons argument before ih =>
    by_cases hend : argument = [0x2D, 0x2D]
    · subst hend
      have hmore : before ++ (words ++ after) ≠ [] := by simp [hwords]
      obtain ⟨extra, rest, hrest⟩ := List.exists_cons_of_ne_nil hmore
      rw [List.cons_append, hrest] at h
      exact absurd h readArguments_endMark_ne_ok
    · rw [List.cons_append, readArguments_cons_eq_ok_iff hend] at h ⊢
      obtain ⟨next, hread, hrest⟩ := h
      obtain ⟨hkept, hothers⟩ := ih hrest
      exact ⟨hkept, next, hread, hothers⟩

/-- Words that can be exchanged for others where they stand can be exchanged on a command line: it
is accepted with the others too, and asks for the same up to the change. -/
theorem parse_exchange (hunnoticed : Unnoticed keeps change) (hwords : words ≠ [])
    (hhere : ∀ {given out : Given} {pending : Pending},
      readArguments given pending (words ++ after) = .ok out →
        keeps out ∧ readArguments given pending (others ++ after) = .ok (change out))
    {environment : Environment} {before : List Bytes} {request : Request}
    (h : parse environment (before ++ (words ++ after)) = .ok request) :
    ∃ given, keeps given ∧ given.request = request ∧
      parse environment (before ++ (others ++ after)) = .ok (change given).request := by
  obtain ⟨given, hgiven, rfl⟩ := map_eq_ok_iff.mp h
  obtain ⟨read, hread, hcompleted⟩ := bind_eq_ok_iff.mp hgiven
  obtain ⟨hkept, hothers⟩ := readArguments_exchange hwords hhere hread
  obtain ⟨hkept, hcompleted⟩ :=
    (Action.completed environment).unnoticed hunnoticed hkept hcompleted
  exact ⟨given, hkept, rfl,
    map_eq_ok_iff.mpr ⟨_, bind_eq_ok_iff.mpr ⟨_, hothers, hcompleted⟩, rfl⟩⟩

end Exchange

end Fixtures.Options
