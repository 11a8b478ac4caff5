import Fixtures.Proofs.Collect
import Fixtures.Proofs.Options.Environment

/-!
# Settings that can be asked for

Reading options, falling back on variables and dropping the dots of an extension leave settings
without an empty path and without a dot in front of the extension. Of such settings only the
extension can be refused, and the suffix they show is the one that scripts are collected by.
-/

namespace Fixtures

namespace Settings

/-- What holds of all settings that can be asked for: no path is empty, and the extension does not
start with a dot. -/
structure Sound (settings : Settings) : Prop where
  scriptsDir : settings.scriptsDir ≠ []
  treesDir : settings.treesDir ≠ some []
  executable : settings.executable ≠ []
  extension : settings.extension.toList.head? ≠ some '.'

namespace Sound

variable {settings : Settings} (h : settings.Sound)

include h

/-- The parse trees go to a path that is not empty. -/
theorem outDir_ne_nil : settings.outDir ≠ [] := by
  rw [outDir]
  cases htrees : settings.treesDir with
  | none => exact h.scriptsDir
  | some dir =>
    rintro rfl
    exact h.treesDir htrees

/-- Sound settings are refused for their extension only. -/
theorem validate_eq :
    settings.validate =
      if settings.extension = "" then
        .error (.invalidArgument "--extension must not be empty")
      else if '/' ∈ settings.extension.toList ∨ '\\' ∈ settings.extension.toList then
        .error (.invalidArgument
          ("--extension '" ++ settings.extension ++ "' must not contain path separators"))
      else .ok () := by
  have hstarts : settings.executable.isEmpty = false := by simpa using h.executable
  have hany : (settings.extension.toList.any fun c => c == '/' || c == '\\') = true ↔
      '/' ∈ settings.extension.toList ∨ '\\' ∈ settings.extension.toList := by
    simp [List.any_eq_true, and_or_left, exists_or]
  simp only [validate, hstarts, String.isEmpty_iff, hany, Bool.false_eq_true, ite_false]

/-- Sound settings are refused exactly if the extension is empty or has a slash of either kind. -/
theorem exists_validate_eq_error_iff :
    (∃ failure, settings.validate = .error failure) ↔
      settings.extension = "" ∨
        '/' ∈ settings.extension.toList ∨ '\\' ∈ settings.extension.toList := by
  rw [h.validate_eq]
  by_cases hempty : settings.extension = ""
  · simp [hempty]
  · by_cases hslash : '/' ∈ settings.extension.toList ∨ '\\' ∈ settings.extension.toList
    · simp [hempty, hslash]
    · simp [hempty, hslash]

/-- Sound settings are not refused for their executable. -/
theorem validate_ne_executable :
    settings.validate ≠ .error (.invalidArgument "--exe must not be empty") := by
  rw [h.validate_eq]
  split
  · decide
  · split
    · intro heq
      have htext := congrArg String.toList (Failure.invalidArgument.inj (Except.error.inj heq))
      simp [String.toList_append] at htext
    · rintro ⟨⟩

/-- The suffix that sound settings show is the one that scripts are collected by. -/
theorem encode_suffix : Utf8.encode settings.suffix = Collect.suffix settings.extension := by
  have hdot : String.utf8EncodeChar '.' = [Path.dot] := by decide
  rw [Collect.suffix_eq, Collect.bare_eq_of_head? h.extension, suffix, Utf8.encode, Utf8.encode,
    String.toList_append, List.flatMap_append]
  simp [hdot]

end Sound

end Settings

namespace Options

/-- The value that admissible entries have for a setting is one that it can have. -/
theorem admits_of_valueOf {entries : List Entry} {setting : Setting} {raw : Bytes}
    (h : ∀ entry ∈ entries, entry.Admissible)
    (hvalue : valueOf entries (.setting setting) = some raw) : setting.Admits raw := by
  obtain ⟨entry, hfind, rfl⟩ := Option.map_eq_some_iff.mp hvalue
  have hadmissible := h entry (List.mem_of_find?_eq_some hfind)
  have hswitch : entry.switch = .setting setting := by simpa using List.find?_some hfind
  cases entry with
  | flag flag => cases hswitch
  | setting other raw =>
    cases hswitch
    exact hadmissible

/-- Admissible entries ask for sound settings. -/
theorem Carries.sound {entries : List Entry} {request : Request} (h : Carries entries request)
    (hadmissible : ∀ entry ∈ entries, entry.Admissible) : request.settings.Sound := by
  refine ⟨?_, ?_, ?_, ?_⟩
  · rw [h.scriptsDir]
    cases hvalue : valueOf entries (.setting .dir) with
    | none => decide
    | some raw => exact admits_of_valueOf hadmissible hvalue
  · rw [h.treesDir]
    intro hvalue
    exact admits_of_valueOf hadmissible hvalue rfl
  · rw [h.executable]
    cases hvalue : valueOf entries (.setting .exe) with
    | none => decide
    | some raw => exact admits_of_valueOf hadmissible hvalue
  · rw [Ne, ← Utf8.head?_encode_eq_some_iff (by decide : '.'.toNat < 0x80), h.extension]
    intro hdot
    have hdropped := List.head?_dropWhile_not (· == (0x2E : UInt8))
      ((valueOf entries (.setting .extension)).getD (Utf8.encode "boink"))
    rw [hdot] at hdropped
    exact absurd hdropped (by decide)

/-- Variables with values that they can have leave settings sound. -/
theorem Request.sound_fallingBack {request : Request} {environment : Environment}
    (h : request.settings.Sound) (hacceptable : environment.Acceptable) :
    (request.fallingBack environment).settings.Sound := by
  refine ⟨?_, h.treesDir, ?_, h.extension⟩
  · change environment.dir.getD request.settings.scriptsDir ≠ []
    cases hdir : environment.dir with
    | none => exact h.scriptsDir
    | some raw => exact hacceptable.dir raw hdir
  · change environment.exe.getD request.settings.executable ≠ []
    cases hexe : environment.exe with
    | none => exact h.executable
    | some raw => exact hacceptable.exe raw hexe

/-- The bytes that entries give for the extension, or the default, without the dots in front. -/
def bareExtension (entries : List Entry) : Bytes :=
  ((valueOf entries (.setting .extension)).getD (Utf8.encode "boink")).dropWhile (· == Path.dot)

section Parse

variable {environment : Environment} {arguments : List Bytes} {request : Request}
  (h : parse environment arguments = .ok request)

include h

/-- A command line that is accepted is written for entries that are taken. -/
theorem exists_written_of_parse :
    ∃ entries given, Written entries arguments ∧ Given.takeAll {} entries = .ok given := by
  obtain ⟨_, hcompleted, -⟩ := map_eq_ok_iff.mp h
  obtain ⟨given, hread, -⟩ := bind_eq_ok_iff.mp hcompleted
  obtain ⟨entries, hwritten, htake⟩ := exists_written_of_readArguments hread
  exact ⟨entries, given, hwritten, htake⟩

/-- Whatever is asked for, the settings are sound. -/
theorem sound_of_parse : request.settings.Sound := by
  obtain ⟨entries, given, hwritten, htake⟩ := exists_written_of_parse h
  obtain ⟨hacceptable, rfl⟩ := (parse_eq_ok_iff_fallingBack hwritten htake).mp h
  refine Request.sound_fallingBack ?_ hacceptable
  have hentries := (Given.look_of_takeAll htake).2.1
  exact (Given.carries_of_takeAll htake).sound fun entry hentry => (hentries entry hentry).2

/-- The extension that is asked for is the one that is given, without the dots in front. -/
theorem encode_extension_of_parse {entries : List Entry} (hwritten : Written entries arguments) :
    Utf8.encode request.settings.extension = bareExtension entries := by
  obtain ⟨others, given, hothers, htake⟩ := exists_written_of_parse h
  have hread := hothers.readArguments htake
  have htaken := hwritten.readArguments_eq_ok_iff.mp hread
  obtain ⟨-, rfl⟩ := (parse_eq_ok_iff_fallingBack hwritten htaken).mp h
  exact (Given.carries_of_takeAll htaken).extension

/-- What is asked for is refused exactly if the extension that is given, without the dots in front,
is empty or has a slash of either kind. -/
theorem exists_validate_eq_error_iff_of_parse {entries : List Entry}
    (hwritten : Written entries arguments) :
    (∃ failure, request.settings.validate = .error failure) ↔
      bareExtension entries = [] ∨ Path.slash ∈ bareExtension entries ∨
        0x5C ∈ bareExtension entries := by
  have hempty : Utf8.encode request.settings.extension = [] ↔ request.settings.extension = "" :=
    @Utf8.encode_inj request.settings.extension ""
  have hslash := Utf8.mem_encode_iff (by decide : '/'.toNat < 0x80) request.settings.extension
  have hback := Utf8.mem_encode_iff (by decide : '\\'.toNat < 0x80) request.settings.extension
  rw [(sound_of_parse h).exists_validate_eq_error_iff, ← encode_extension_of_parse h hwritten,
    hempty]
  exact or_congr_right (or_congr hslash.symm hback.symm)

end Parse

end Options

end Fixtures
