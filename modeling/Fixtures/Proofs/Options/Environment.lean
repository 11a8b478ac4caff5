import Fixtures.Proofs.Options.Accepted

/-!
# Variables that stand in for options

A variable has a part in what is asked for only if its option is not on the command line. Then its
value is taken as that of the option would be, and it changes the one setting it stands in for. All
other settings are those of the command line alone.

A command line that is accepted without variables is accepted with them exactly if each one whose
option is not on the command line, however that is written, has a value that it can have: a path is
not empty and a launcher is well formed. The parse trees go to the scripts directory if no other is
named. Two environments that agree on the variables that have a part lead to the same request, or to
the same refusal.
-/

namespace Fixtures.Options

namespace Environment

/-- The variable that stands in for a setting. -/
def value (environment : Environment) : Setting → Option Bytes
  | .dir => environment.dir
  | .exe => environment.exe
  | .launcher => environment.launcher
  | _ => none

/-- The variables whose options are not among entries. -/
def without (environment : Environment) (entries : List Entry) : Environment :=
  let absent := fun setting : Setting =>
    if (valueOf entries (.setting setting)).isSome then none else environment.value setting
  { dir := absent .dir, exe := absent .exe, launcher := absent .launcher }

/-- Whether each variable has a value that it can have: a path is not empty and the launcher is
well formed. -/
structure Acceptable (environment : Environment) : Prop where
  dir (raw : Bytes) (h : environment.dir = some raw) : raw ≠ []
  exe (raw : Bytes) (h : environment.exe = some raw) : raw ≠ []
  launcher (raw : Bytes) (h : environment.launcher = some raw) : ∃ text, raw = Utf8.encode text

/-- Whether no variable stands for a setting that was given. -/
def FreeOf (environment : Environment) (given : Given) : Prop :=
  ∀ setting, given.has setting = true → environment.value setting = none

end Environment

/-- The request with variables in the place of its settings. -/
def Request.fallingBack (request : Request) (environment : Environment) : Request :=
  { request with
    settings := { request.settings with
      scriptsDir := environment.dir.getD request.settings.scriptsDir
      executable := environment.exe.getD request.settings.executable
      launcher := (environment.launcher.bind Utf8.text?).or request.settings.launcher } }

/-- What was given, with variables in the place of its settings. -/
def Given.fallingBack (given : Given) (environment : Environment) : Given :=
  { given with
    dir := environment.dir.or given.dir
    exe := environment.exe.or given.exe
    launcher := (environment.launcher.bind Utf8.text?).or given.launcher }

section StandIn

variable {given out : Given} {setting : Setting}

/-- A variable for a setting that was given is not looked at. -/
theorem standIn_of_has (h : given.has setting = true) (value : Option Bytes) :
    standIn given setting value = .ok given := by
  cases value with
  | none => rfl
  | some raw => rw [standIn, if_pos h]

/-- A variable for a setting that was not given is taken as the setting would be. -/
theorem standIn_eq_ok_iff {value : Option Bytes} (hfree : given.has setting = true → value = none) :
    standIn given setting value = .ok out ↔
      value = none ∧ given = out ∨
        ∃ raw, value = some raw ∧ given.assign setting raw = .ok out := by
  cases value with
  | none => simp [standIn]
  | some raw =>
    have hnew : given.has setting = false := by
      cases h : given.has setting with
      | false => rfl
      | true => cases hfree h
    simp [standIn, hnew, orRefuse_eq_ok_iff]

/-- A variable gives no other setting. -/
theorem has_of_standIn {value : Option Bytes} (h : standIn given setting value = .ok out)
    {other : Setting} (hother : other ≠ setting) : out.has other = given.has other := by
  cases hhas : given.has setting with
  | true =>
    cases (standIn_of_has hhas value).symm.trans h
    rfl
  | false =>
    have hfree : given.has setting = true → value = none := by simp [hhas]
    rcases (standIn_eq_ok_iff hfree).mp h with ⟨-, rfl⟩ | ⟨raw, -, hassign⟩
    · rfl
    · have hne : Switch.setting other ≠ .setting setting :=
        fun heq => hother (Switch.setting.inj heq)
      rw [Given.has_eq_isSome_look, Given.has_eq_isSome_look, Given.look_of_assign hassign,
        if_neg hne]

end StandIn

/-- Variables that differ only for settings that were given come to the same. -/
theorem completed_congr {given : Given} {environment other : Environment}
    (h : ∀ setting, given.has setting = true ∨ environment.value setting = other.value setting) :
    completed environment given = completed other given := by
  have hstep : ∀ {state : Given} {setting : Setting}, state.has setting = given.has setting →
      standIn state setting (environment.value setting) =
        standIn state setting (other.value setting) := by
    intro state setting hsame
    rcases h setting with hhas | hvalue
    · rw [standIn_of_has (hsame.trans hhas), standIn_of_has (hsame.trans hhas)]
    · rw [hvalue]
  have hdir : standIn given .dir environment.dir = standIn given .dir other.dir := hstep rfl
  rw [completed, completed, hdir]
  cases hfirst : standIn given .dir other.dir with
  | error stop => rfl
  | ok first =>
    have hexe : standIn first .exe environment.exe = standIn first .exe other.exe :=
      hstep (has_of_standIn hfirst (by decide))
    simp only [Except.bind, hexe]
    cases hsecond : standIn first .exe other.exe with
    | error stop => rfl
    | ok second =>
      exact hstep ((has_of_standIn hsecond (by decide)).trans (has_of_standIn hfirst (by decide)))

section Values

variable {given out : Given} {value : Option Bytes}

/-- A path in a variable is taken if it is not empty. -/
theorem standIn_path_eq_ok_iff {setting : Setting} {update : Path → Given}
    (hassign : ∀ raw, given.assign setting raw = (Given.nonempty setting raw).map update)
    (hfree : given.has setting = true → value = none) :
    standIn given setting value = .ok out ↔
      (∀ raw, value = some raw → raw ≠ []) ∧ value.elim given update = out := by
  rw [standIn_eq_ok_iff hfree]
  cases value with
  | none => simp
  | some raw =>
    simp only [hassign, map_eq_ok_iff, Given.nonempty_eq_ok_iff]
    constructor
    · rintro (⟨hempty, -⟩ | ⟨_, hraw, path, ⟨hsome, rfl⟩, rfl⟩)
      · cases hempty
      · cases hraw
        exact ⟨fun _ heq => Option.some.inj heq ▸ hsome, rfl⟩
    · rintro ⟨hsome, rfl⟩
      exact .inr ⟨raw, rfl, raw, ⟨hsome raw rfl, rfl⟩, rfl⟩

/-- A scripts directory in a variable is taken if it is not empty. -/
theorem standIn_dir_eq_ok_iff (hfree : given.has .dir = true → value = none) :
    standIn given .dir value = .ok out ↔
      (∀ raw, value = some raw → raw ≠ []) ∧ { given with dir := value.or given.dir } = out := by
  rw [standIn_path_eq_ok_iff (fun _ => rfl) hfree]
  cases value <;> rfl

/-- An executable in a variable is taken if it is not empty. -/
theorem standIn_exe_eq_ok_iff (hfree : given.has .exe = true → value = none) :
    standIn given .exe value = .ok out ↔
      (∀ raw, value = some raw → raw ≠ []) ∧ { given with exe := value.or given.exe } = out := by
  rw [standIn_path_eq_ok_iff (fun _ => rfl) hfree]
  cases value <;> rfl

/-- A launcher in a variable is taken if it is well formed. -/
theorem standIn_launcher_eq_ok_iff (hfree : given.has .launcher = true → value = none) :
    standIn given .launcher value = .ok out ↔
      (∀ raw, value = some raw → ∃ text, raw = Utf8.encode text) ∧
        { given with launcher := (value.bind Utf8.text?).or given.launcher } = out := by
  rw [standIn_eq_ok_iff hfree]
  cases value with
  | none => simp
  | some raw =>
    simp only [Given.assign, map_eq_ok_iff, Given.wellFormed_eq_ok_iff]
    constructor
    · rintro (⟨hempty, -⟩ | ⟨_, hraw, text, rfl, rfl⟩)
      · cases hempty
      · cases hraw
        refine ⟨fun _ heq => ⟨text, (Option.some.inj heq).symm⟩, ?_⟩
        simp [Utf8.text?_encode]
    · rintro ⟨hwell, rfl⟩
      obtain ⟨text, rfl⟩ := hwell raw rfl
      exact .inr ⟨_, rfl, text, rfl, by simp [Utf8.text?_encode]⟩

end Values

/-- Variables for settings that were not given are taken if each has a value that it can have, and
then they stand in the place of these settings. -/
theorem completed_eq_ok_iff {environment : Environment} {given out : Given}
    (hfree : environment.FreeOf given) :
    completed environment given = .ok out ↔
      environment.Acceptable ∧ given.fallingBack environment = out := by
  have hfreeDir : given.has .dir = true → environment.dir = none := hfree .dir
  have hfreeExe : ∀ dir, Given.has { given with dir := dir } .exe = true →
      environment.exe = none := fun _ => hfree .exe
  have hfreeLauncher : ∀ dir exe, Given.has { given with dir := dir, exe := exe } .launcher = true →
      environment.launcher = none := fun _ _ => hfree .launcher
  rw [completed, bind_eq_ok_iff]
  constructor
  · rintro ⟨_, hfirst, hrest⟩
    obtain ⟨hdir, rfl⟩ := (standIn_dir_eq_ok_iff hfreeDir).mp hfirst
    obtain ⟨_, hsecond, hthird⟩ := bind_eq_ok_iff.mp hrest
    obtain ⟨hexe, rfl⟩ := (standIn_exe_eq_ok_iff (hfreeExe _)).mp hsecond
    obtain ⟨hlauncher, rfl⟩ := (standIn_launcher_eq_ok_iff (hfreeLauncher _ _)).mp hthird
    exact ⟨⟨hdir, hexe, hlauncher⟩, rfl⟩
  · rintro ⟨⟨hdir, hexe, hlauncher⟩, rfl⟩
    exact ⟨_, (standIn_dir_eq_ok_iff hfreeDir).mpr ⟨hdir, rfl⟩, bind_eq_ok_iff.mpr
      ⟨_, (standIn_exe_eq_ok_iff (hfreeExe _)).mpr ⟨hexe, rfl⟩,
        (standIn_launcher_eq_ok_iff (hfreeLauncher _ _)).mpr ⟨hlauncher, rfl⟩⟩⟩

/-- Variables change the request as they change what was given. -/
theorem Given.request_fallingBack (given : Given) (environment : Environment) :
    (given.fallingBack environment).request = given.request.fallingBack environment := by
  rcases environment with ⟨dir, exe, launcher⟩
  cases dir <;> cases exe <;> rfl

/-- What was given has a setting exactly if the entries it was given by have a value for it. -/
theorem Given.has_of_takeAll {given : Given} {entries : List Entry}
    (h : takeAll {} entries = .ok given) (setting : Setting) :
    given.has setting = (valueOf entries (.setting setting)).isSome := by
  rw [has_eq_isSome_look, (look_of_takeAll h).2.2, look_empty, Option.or_none]

/-- The variable for a setting, if the option is not among the entries. -/
theorem Environment.value_without (environment : Environment) (entries : List Entry)
    (setting : Setting) :
    (environment.without entries).value setting =
      if (valueOf entries (.setting setting)).isSome then none else environment.value setting := by
  cases setting <;> simp [without, value]

section Parse

variable {entries : List Entry} {arguments : List Bytes} {given : Given}
  (hwritten : Written entries arguments) (htake : Given.takeAll {} entries = .ok given)

include hwritten htake

/-- A command line that is written for entries that are taken, in an environment. -/
theorem parse_of_written (environment : Environment) :
    parse environment arguments = (completed environment given).map Given.request := by
  rw [parse, hwritten.readArguments htake]
  rfl

/-- Variables that differ only for options on the command line lead to the same. -/
theorem parse_congr {environment other : Environment}
    (h : ∀ setting, .setting setting ∉ entries.map Entry.switch →
      environment.value setting = other.value setting) :
    parse environment arguments = parse other arguments := by
  rw [parse_of_written hwritten htake, parse_of_written hwritten htake]
  refine congrArg _ (completed_congr fun setting => ?_)
  by_cases hmem : .setting setting ∈ entries.map Entry.switch
  · left
    rw [Given.has_of_takeAll htake, Option.isSome_iff_ne_none, Ne, valueOf_eq_none_iff]
    exact not_not_intro hmem
  · exact .inr (h setting hmem)

/-- What is asked for in an environment. -/
theorem parse_eq_ok_iff_fallingBack {environment : Environment} {request : Request} :
    parse environment arguments = .ok request ↔
      (environment.without entries).Acceptable ∧
        given.request.fallingBack (environment.without entries) = request := by
  have hsame : parse environment arguments = parse (environment.without entries) arguments := by
    refine parse_congr hwritten htake fun setting hmem => ?_
    rw [Environment.value_without, valueOf_eq_none_iff.mpr hmem]
    rfl
  have hfree : (environment.without entries).FreeOf given := by
    intro setting hhas
    rw [Environment.value_without, ← Given.has_of_takeAll htake, if_pos hhas]
  rw [hsame, parse_of_written hwritten htake, map_eq_ok_iff]
  simp only [completed_eq_ok_iff hfree]
  constructor
  · rintro ⟨_, ⟨hacceptable, rfl⟩, rfl⟩
    exact ⟨hacceptable, (given.request_fallingBack _).symm⟩
  · rintro ⟨hacceptable, rfl⟩
    exact ⟨_, ⟨hacceptable, rfl⟩, given.request_fallingBack _⟩

end Parse

/-- Variables stand in for options that are not on the command line, and only for these. -/
theorem environment_stands_in_for_absent (arguments : List Bytes) (request : Request)
    (h : parse {} arguments = .ok request) :
    (∃ entries, Written entries arguments) ∧
    ∀ entries, Written entries arguments → ∀ environment : Environment,
      ((∃ other, parse environment arguments = .ok other) ↔
        (environment.without entries).Acceptable) ∧
      (∀ other, parse environment arguments = .ok other →
        other = request.fallingBack (environment.without entries) ∧
        other.settings = { request.settings with
          scriptsDir := other.settings.scriptsDir
          executable := other.settings.executable
          launcher := other.settings.launcher } ∧
        other.report = request.report ∧
        other.settings.outDir = request.settings.treesDir.getD other.settings.scriptsDir) ∧
      ∀ other : Environment, (∀ setting, .setting setting ∉ entries.map Entry.switch →
          environment.value setting = other.value setting) →
        parse environment arguments = parse other arguments := by
  obtain ⟨given, hread, rfl⟩ := parse_empty_eq_ok_iff.mp h
  refine ⟨?_, fun entries hwritten environment => ?_⟩
  · obtain ⟨entries, hwritten, -⟩ := exists_written_of_readArguments hread
    exact ⟨entries, hwritten⟩
  have htake := hwritten.readArguments_eq_ok_iff.mp hread
  refine ⟨?_, ?_, fun other hagree => parse_congr hwritten htake hagree⟩
  · simp only [parse_eq_ok_iff_fallingBack hwritten htake, exists_and_left, exists_eq', and_true]
  · intro other hother
    obtain ⟨-, rfl⟩ := (parse_eq_ok_iff_fallingBack hwritten htake).mp hother
    exact ⟨rfl, rfl, rfl, rfl⟩

/-- With the scripts directory behind its letter an empty variable for it does no harm, and the
other two variables stand in. A launcher that is no text is refused. -/
theorem environment_stands_in_for_absent_glued :
    let arguments := [Utf8.encode "-vdscripts"]
    let request : Request :=
      { settings := { scriptsDir := Path.ofText "scripts", verbose := true }, report := none }
    let environment : Environment :=
      { dir := some [], exe := some (Path.ofText "tool"), launcher := some (Utf8.encode "sh -e") }
    parse {} arguments = .ok request ∧
      parse environment arguments = .ok { request with
        settings := { request.settings with
          executable := Path.ofText "tool", launcher := some "sh -e" } } ∧
      ¬∃ other, parse { environment with launcher := some [0xFF] } arguments = .ok other := by
  intro arguments request environment
  have hparse : parse {} arguments = .ok request := eq_ok_of_toOption (by decide +kernel)
  have hwritten : Written [.flag .verbose, .setting .dir (Path.ofText "scripts")] arguments :=
    .piece (.glued (.attached rfl (by decide))) .nil
  obtain ⟨-, hstands⟩ := environment_stands_in_for_absent arguments request hparse
  obtain ⟨haccepted, hrequest, -⟩ := hstands _ hwritten environment
  obtain ⟨hrefused, -, -⟩ := hstands _ hwritten { environment with launcher := some [0xFF] }
  refine ⟨hparse, ?_, ?_⟩
  · have hacceptable : (environment.without
        [.flag .verbose, .setting .dir (Path.ofText "scripts")]).Acceptable := by
      refine ⟨fun raw hraw => ?_, fun raw hraw => ?_, fun raw hraw => ?_⟩
      · cases hraw
      · cases hraw
        decide
      · cases hraw
        exact ⟨_, rfl⟩
    obtain ⟨other, hother⟩ := haccepted.mpr hacceptable
    rw [hother, (hrequest other hother).1]
    exact congrArg _ (by decide +kernel)
  · intro hok
    obtain ⟨text, htext⟩ := (hrefused.mp hok).launcher [0xFF] rfl
    have hnone : Utf8.text? [0xFF] = none := by decide +kernel
    rw [htext, Utf8.text?_encode] at hnone
    cases hnone

end Fixtures.Options
