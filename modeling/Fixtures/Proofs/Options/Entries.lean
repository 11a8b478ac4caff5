import Fixtures.Proofs.Options.Flags
import Fixtures.Proofs.Text.Utf8

/-!
# Options as entries

What was given is a map from options to values. Each option is taken once, with a value that it
admits, and adds one entry to the map; so a list of options is taken exactly if no option stands in
it twice and every value is admitted, and the map then holds these values and no others.
-/

namespace Fixtures

/-- Policies are told apart by their names. -/
theorem Policy.name_inj {policy other : Policy} : policy.name = other.name ↔ policy = other := by
  constructor
  · cases policy <;> cases other <;> simp [Policy.name]
  · exact congrArg Policy.name

namespace Options

/-- An option that is given, with the bytes of its value. -/
inductive Entry where
  /-- A flag. -/
  | flag (flag : Flag)
  /-- A setting and its value. -/
  | setting (setting : Setting) (raw : Bytes)
  deriving DecidableEq, Repr

namespace Entry

/-- The option of an entry. -/
def switch : Entry → Switch
  | flag f => .flag f
  | setting s _ => .setting s

/-- The value of an entry. A flag has no bytes. -/
def raw : Entry → Bytes
  | flag _ => []
  | setting _ raw => raw

end Entry

/-- Whether a setting can have a value: a path is not empty, a text is well formed and a policy is
one of three words. -/
def Setting.Admits : Setting → Bytes → Prop
  | dir, raw => raw ≠ []
  | outDir, raw => raw ≠ []
  | exe, raw => raw ≠ []
  | launcher, raw => ∃ text, raw = Utf8.encode text
  | extension, raw => ∃ text, raw = Utf8.encode text
  | onFailure, raw => raw ∈ ["warn", "abort", "ignore"].map Utf8.encode
  | report, raw => raw ≠ []

/-- Whether the value of an entry is one that its option can have. -/
def Entry.Admissible : Entry → Prop
  | flag _ => True
  | setting s raw => s.Admits raw

/-- The value that entries have for an option. -/
def valueOf (entries : List Entry) (switch : Switch) : Option Bytes :=
  (entries.find? fun entry => entry.switch = switch).map Entry.raw

theorem valueOf_cons (entry : Entry) (entries : List Entry) (switch : Switch) :
    valueOf (entry :: entries) switch =
      if entry.switch = switch then some entry.raw else valueOf entries switch := by
  by_cases h : entry.switch = switch
  · simp [valueOf, h]
  · simp [valueOf, h]

/-- Entries have a value for an option exactly if one of them is for it. -/
theorem valueOf_eq_none_iff {entries : List Entry} {switch : Switch} :
    valueOf entries switch = none ↔ switch ∉ entries.map Entry.switch := by
  simp [valueOf, List.find?_eq_none]

/-- Entries have a value for a flag exactly if the flag is one of them. -/
theorem flag_mem_iff {entries : List Entry} {flag : Flag} :
    .flag flag ∈ entries ↔ valueOf entries (.flag flag) ≠ none := by
  rw [Ne, valueOf_eq_none_iff, Decidable.not_not, List.mem_map]
  constructor
  · intro h
    exact ⟨_, h, rfl⟩
  · rintro ⟨entry, hentry, hswitch⟩
    cases entry with
    | flag other =>
      cases hswitch
      exact hentry
    | setting _ _ => cases hswitch

/-- An option that entries do not have is not the option of any of them. -/
theorem switch_ne_of_mem {entry other : Entry} {entries : List Entry}
    (hnew : entry.switch ∉ entries.map Entry.switch) (hother : other ∈ entries) :
    other.switch ≠ entry.switch := by
  intro heq
  exact hnew (heq ▸ List.mem_map_of_mem hother)

/-- A value beside those of entries without its option is one more entry. -/
theorem valueOf_or_of_not_mem {entry : Entry} {entries : List Entry}
    (hnew : entry.switch ∉ entries.map Entry.switch) (switch : Switch) (other : Option Bytes) :
    (valueOf entries switch).or (if switch = entry.switch then some entry.raw else other) =
      (valueOf (entry :: entries) switch).or other := by
  rw [valueOf_cons]
  by_cases heq : switch = entry.switch
  · rw [heq, if_pos rfl, if_pos rfl, valueOf_eq_none_iff.mpr hnew]
    rfl
  · rw [if_neg heq, if_neg (Ne.symm heq)]

namespace Given

/-- The value that was given for an option. -/
def look (given : Given) : Switch → Option Bytes
  | .flag flag => if given.hasFlag flag then some [] else none
  | .setting .dir => given.dir
  | .setting .outDir => given.outDir
  | .setting .exe => given.exe
  | .setting .launcher => given.launcher.map Utf8.encode
  | .setting .extension => given.extension.map Utf8.encode
  | .setting .onFailure => given.onFailure.map fun policy => Utf8.encode policy.name
  | .setting .report => given.report
  | .help => none
  | .version => none

/-- At first nothing was given. -/
theorem look_empty (switch : Switch) : look {} switch = none := by
  cases switch with
  | flag flag => cases flag <;> rfl
  | setting setting => cases setting <;> rfl
  | help => rfl
  | version => rfl

/-- A setting was given if it has a value. -/
theorem has_eq_isSome_look (given : Given) (setting : Setting) :
    given.has setting = (given.look (.setting setting)).isSome := by
  cases setting <;> simp [has, look]

/-- A path is taken as it is, if it is not empty. -/
theorem nonempty_eq_ok_iff {setting : Setting} {raw : Bytes} {path : Path} :
    nonempty setting raw = .ok path ↔ raw ≠ [] ∧ raw = path := by
  by_cases h : raw = [] <;> simp [nonempty, h]

/-- A text is taken if the bytes spell it. -/
theorem wellFormed_eq_ok_iff {raw : Bytes} {text : String} :
    wellFormed raw = .ok text ↔ raw = Utf8.encode text := by
  rw [wellFormed, ← Utf8.text?_eq_some_iff]
  cases Utf8.text? raw <;> simp

/-- A policy is known by its name. -/
theorem ofName?_eq_some_iff {word : String} {policy : Policy} :
    Policy.ofName? word = some policy ↔ word = policy.name := by
  constructor
  · intro h
    have hname := List.find?_some h
    exact (eq_of_beq hname).symm
  · rintro rfl
    cases policy <;> decide

/-- A policy is taken if the bytes spell its name. -/
theorem policy_eq_ok_iff {raw : Bytes} {chosen : Policy} :
    policy raw = .ok chosen ↔ raw = Utf8.encode chosen.name := by
  have hchosen : (Utf8.text? raw).bind Policy.ofName? = some chosen ↔
      raw = Utf8.encode chosen.name := by
    simp only [Option.bind_eq_some_iff, ofName?_eq_some_iff, Utf8.text?_eq_some_iff]
    constructor
    · rintro ⟨word, hword, rfl⟩
      exact hword
    · intro h
      exact ⟨_, h, rfl⟩
  rw [policy, ← hchosen]
  cases (Utf8.text? raw).bind Policy.ofName? with
  | some other => simp
  | none => by_cases hraw : raw = [] <;> simp [hraw]

/-- The words for policies are their names. -/
theorem admits_onFailure_iff {raw : Bytes} :
    Setting.onFailure.Admits raw ↔ ∃ policy : Policy, raw = Utf8.encode policy.name := by
  simp only [Setting.Admits, List.map_cons, List.map_nil, List.mem_cons, List.not_mem_nil, or_false]
  constructor
  · rintro (h | h | h)
    · exact ⟨.warn, h⟩
    · exact ⟨.abort, h⟩
    · exact ⟨.ignore, h⟩
  · rintro ⟨policy, h⟩
    cases policy with
    | warn => exact .inl h
    | abort => exact .inr (.inl h)
    | ignore => exact .inr (.inr h)

/-- A value that is admitted is taken. -/
theorem exists_assign_eq_ok (given : Given) {setting : Setting} {raw : Bytes}
    (h : setting.Admits raw) : ∃ out, given.assign setting raw = .ok out := by
  have hpath : ∀ (other : Setting) (f : Path → Given), raw ≠ [] →
      ∃ out, (nonempty other raw).map f = .ok out :=
    fun other f hraw => ⟨f raw, map_eq_ok_iff.mpr ⟨raw, nonempty_eq_ok_iff.mpr ⟨hraw, rfl⟩, rfl⟩⟩
  have htext : ∀ f : String → Given, (∃ text, raw = Utf8.encode text) →
      ∃ out, (wellFormed raw).map f = .ok out :=
    fun f ⟨text, hraw⟩ => ⟨f text, map_eq_ok_iff.mpr ⟨text, wellFormed_eq_ok_iff.mpr hraw, rfl⟩⟩
  cases setting with
  | dir => exact hpath .dir _ h
  | outDir => exact hpath .outDir _ h
  | exe => exact hpath .exe _ h
  | report => exact hpath .report _ h
  | launcher => exact htext _ h
  | extension => exact htext _ h
  | onFailure =>
    obtain ⟨chosen, hraw⟩ := admits_onFailure_iff.mp h
    exact ⟨_, map_eq_ok_iff.mpr ⟨chosen, policy_eq_ok_iff.mpr hraw, rfl⟩⟩

/-- A value that is taken is admitted. -/
theorem admits_of_assign {given out : Given} {setting : Setting} {raw : Bytes}
    (h : given.assign setting raw = .ok out) : setting.Admits raw := by
  cases setting <;> obtain ⟨value, hvalue, -⟩ := map_eq_ok_iff.mp h
  case launcher => exact ⟨value, wellFormed_eq_ok_iff.mp hvalue⟩
  case extension => exact ⟨value, wellFormed_eq_ok_iff.mp hvalue⟩
  case onFailure => exact admits_onFailure_iff.mpr ⟨value, policy_eq_ok_iff.mp hvalue⟩
  all_goals exact (nonempty_eq_ok_iff.mp hvalue).1

/-- A value that is taken is the value of its setting, and no other value changes. -/
theorem look_of_assign {given out : Given} {setting : Setting} {raw : Bytes}
    (h : given.assign setting raw = .ok out) (switch : Switch) :
    out.look switch = if switch = .setting setting then some raw else given.look switch := by
  by_cases heq : switch = .setting setting
  · rw [if_pos heq, heq]
    cases setting <;> obtain ⟨value, hvalue, rfl⟩ := map_eq_ok_iff.mp h
    case launcher => rw [wellFormed_eq_ok_iff.mp hvalue]; rfl
    case extension => rw [wellFormed_eq_ok_iff.mp hvalue]; rfl
    case onFailure => rw [policy_eq_ok_iff.mp hvalue]; rfl
    all_goals rw [(nonempty_eq_ok_iff.mp hvalue).2]; rfl
  · rw [if_neg heq]
    cases setting <;> obtain ⟨value, -, rfl⟩ := map_eq_ok_iff.mp h <;>
      cases switch with
      | flag flag => cases flag <;> rfl
      | setting other => cases other <;> simp [look] at heq ⊢
      | help => rfl
      | version => rfl

/-- A flag that is set has a value, and no other value changes. -/
theorem look_setFlag (given : Given) (flag : Flag) (switch : Switch) :
    (given.setFlag flag true).look switch =
      if switch = .flag flag then some [] else given.look switch := by
  by_cases heq : switch = .flag flag
  · rw [if_pos heq, heq]
    cases flag <;> rfl
  · rw [if_neg heq]
    cases switch with
    | flag other =>
      have hne : other ≠ flag := by
        rintro rfl
        exact heq rfl
      simp only [look, hasFlag_setFlag, if_neg hne]
    | setting setting => cases flag <;> cases setting <;> rfl
    | help => rfl
    | version => rfl

/-- Takes an entry, which must be the first for its option. -/
def take (given : Given) : Entry → Except UsageError Given
  | .flag flag => given.acceptFlag flag
  | .setting setting raw => given.accept setting raw

/-- An entry that comes first for its option and is admissible is taken. -/
theorem exists_take_eq_ok {given : Given} {entry : Entry} (hfirst : given.look entry.switch = none)
    (hadmissible : entry.Admissible) : ∃ out, given.take entry = .ok out := by
  cases entry with
  | flag flag =>
    have hoff : given.hasFlag flag = false := by
      simpa [look, Entry.switch] using hfirst
    exact ⟨_, acceptFlag_eq_ok_iff.mpr ⟨hoff, rfl⟩⟩
  | setting setting raw =>
    have hnew : given.has setting = false := by
      rw [has_eq_isSome_look]
      exact Option.isSome_eq_false_iff.mpr (Option.isNone_iff_eq_none.mpr hfirst)
    simp only [take, accept, hnew]
    exact exists_assign_eq_ok given hadmissible

/-- What taking an entry does to the values. -/
theorem look_of_take {given out : Given} {entry : Entry} (h : given.take entry = .ok out) :
    given.look entry.switch = none ∧ entry.Admissible ∧ ∀ switch,
      out.look switch = if switch = entry.switch then some entry.raw else given.look switch := by
  cases entry with
  | flag flag =>
    obtain ⟨hoff, rfl⟩ := acceptFlag_eq_ok_iff.mp h
    have hfirst : given.look (.flag flag) = none := by rw [look, hoff]; rfl
    exact ⟨hfirst, trivial, look_setFlag given flag⟩
  | setting setting raw =>
    rw [take, accept] at h
    cases hnew : given.has setting with
    | true => simp [hnew] at h
    | false =>
      simp only [hnew, Bool.false_eq_true, ite_false] at h
      rw [has_eq_isSome_look, Option.isSome_eq_false_iff, Option.isNone_iff_eq_none] at hnew
      exact ⟨hnew, admits_of_assign h, look_of_assign h⟩

/-- Takes entries one after another. -/
def takeAll (given : Given) (entries : List Entry) : Except UsageError Given :=
  entries.foldlM take given

theorem takeAll_cons_eq_ok_iff {given out : Given} {entry : Entry} {entries : List Entry} :
    given.takeAll (entry :: entries) = .ok out ↔
      ∃ next, given.take entry = .ok next ∧ next.takeAll entries = .ok out := by
  rw [takeAll, List.foldlM_cons]
  exact bind_eq_ok_iff

theorem takeAll_singleton (given : Given) (entry : Entry) :
    given.takeAll [entry] = given.take entry := by
  rw [takeAll, List.foldlM_cons]
  cases given.take entry <;> rfl

/-- Entries are taken in parts. -/
theorem takeAll_append_eq_ok_iff {given out : Given} {entries others : List Entry} :
    given.takeAll (entries ++ others) = .ok out ↔
      ∃ taken, given.takeAll entries = .ok taken ∧ taken.takeAll others = .ok out := by
  rw [takeAll, List.foldlM_append]
  exact bind_eq_ok_iff

/-- Entries that are taken are admissible, none of them is for an option that was given, and no two
are for the same option. Their values stand beside those that were given. -/
theorem look_of_takeAll {given out : Given} {entries : List Entry}
    (h : given.takeAll entries = .ok out) :
    (entries.map Entry.switch).Nodup ∧
      (∀ entry ∈ entries, given.look entry.switch = none ∧ entry.Admissible) ∧
      ∀ switch, out.look switch = (valueOf entries switch).or (given.look switch) := by
  induction entries generalizing given with
  | nil =>
    cases h
    exact ⟨List.nodup_nil, List.forall_mem_nil _, fun switch => (Option.none_or ..).symm⟩
  | cons entry entries ih =>
    obtain ⟨next, htake, hrest⟩ := takeAll_cons_eq_ok_iff.mp h
    obtain ⟨hfirst, hadmissible, hnext⟩ := look_of_take htake
    obtain ⟨hnodup, hothers, hout⟩ := ih hrest
    have hnew : entry.switch ∉ entries.map Entry.switch := by
      intro hmem
      obtain ⟨other, hother, heq⟩ := List.mem_map.mp hmem
      have htaken := (hothers other hother).1
      rw [hnext, if_pos heq] at htaken
      cases htaken
    refine ⟨List.nodup_cons.mpr ⟨hnew, hnodup⟩,
      List.forall_mem_cons.mpr ⟨⟨hfirst, hadmissible⟩, fun other hother => ?_⟩, fun switch => ?_⟩
    · have hfree := hothers other hother
      rwa [hnext, if_neg (switch_ne_of_mem hnew hother)] at hfree
    · rw [hout, hnext, valueOf_or_of_not_mem hnew]

/-- Admissible entries for different options that were not given are taken. -/
theorem exists_takeAll_eq_ok {given : Given} {entries : List Entry}
    (hnodup : (entries.map Entry.switch).Nodup)
    (hentries : ∀ entry ∈ entries, given.look entry.switch = none ∧ entry.Admissible) :
    ∃ out, given.takeAll entries = .ok out := by
  induction entries generalizing given with
  | nil => exact ⟨given, rfl⟩
  | cons entry entries ih =>
    obtain ⟨hnew, hnodup⟩ := List.nodup_cons.mp hnodup
    obtain ⟨⟨hfirst, hadmissible⟩, hothers⟩ := List.forall_mem_cons.mp hentries
    obtain ⟨next, htake⟩ := exists_take_eq_ok hfirst hadmissible
    have hfree : ∀ other ∈ entries, next.look other.switch = none ∧ other.Admissible := by
      intro other hother
      rw [(look_of_take htake).2.2, if_neg (switch_ne_of_mem hnew hother)]
      exact hothers other hother
    obtain ⟨out, hrest⟩ := ih hnodup hfree
    exact ⟨out, takeAll_cons_eq_ok_iff.mpr ⟨next, htake, hrest⟩⟩

end Given

end Options

end Fixtures
