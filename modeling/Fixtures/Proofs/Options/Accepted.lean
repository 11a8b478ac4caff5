import Fixtures.Proofs.Options.Grammar

/-!
# Accepted command lines

Without variables in the environment, a command line is accepted exactly if it is written for
options of which none stands twice and each has a value that it admits. What is asked for then holds
the values of these options, byte for byte, and the defaults of all others.
-/

namespace Fixtures

/-- Characters in front that are spelt by one byte are dropped as that byte. -/
theorem Utf8.flatMap_dropWhile {d : Char} (hd : d.toNat < 0x80) (chars : List Char) :
    (chars.dropWhile (· == d)).flatMap String.utf8EncodeChar =
      (chars.flatMap String.utf8EncodeChar).dropWhile (· == UInt8.ofNat d.toNat) := by
  induction chars with
  | nil => rfl
  | cons c rest ih =>
    by_cases hc : c = d
    · subst hc
      rw [List.dropWhile_cons_of_pos (by simp), ih, List.flatMap_cons, encodeChar_of_lt hd,
        List.singleton_append, List.dropWhile_cons_of_pos (by simp)]
    · have hne : String.utf8EncodeChar c ≠ [] := String.utf8EncodeChar_ne_nil
      obtain ⟨b, bytes, hbytes⟩ := List.exists_cons_of_ne_nil hne
      have hb : b ∈ String.utf8EncodeChar c := hbytes ▸ List.mem_cons_self
      have hother : b ≠ UInt8.ofNat d.toNat := fun heq => hc ((byte_eq_iff hb d hd).mp heq)
      rw [List.dropWhile_cons_of_neg (by simpa using hc), List.flatMap_cons, hbytes,
        List.cons_append, List.dropWhile_cons_of_neg (by simpa using hother)]

namespace Options

/-- Entries and what they ask for: each option has the value of its entry, or its default. -/
structure Carries (entries : List Entry) (request : Request) : Prop where
  scriptsDir : request.settings.scriptsDir =
    (valueOf entries (.setting .dir)).getD (Utf8.encode "test-scripts")
  /-- Without a value the scripts directory stands in. -/
  treesDir : request.settings.treesDir = valueOf entries (.setting .outDir)
  executable : request.settings.executable =
    (valueOf entries (.setting .exe)).getD (Utf8.encode "boinkmain")
  launcher : request.settings.launcher.map Utf8.encode = valueOf entries (.setting .launcher)
  /-- The extension loses the dots in front. -/
  extension : Utf8.encode request.settings.extension =
    ((valueOf entries (.setting .extension)).getD (Utf8.encode "boink")).dropWhile (· == 0x2E)
  onFailure : Utf8.encode request.settings.onFailure.name =
    (valueOf entries (.setting .onFailure)).getD (Utf8.encode "warn")
  verbose : request.settings.verbose = true ↔ .flag .verbose ∈ entries
  skipUpToDate : request.settings.skipUpToDate = true ↔ .flag .skipUpToDate ∈ entries
  dryRun : request.settings.dryRun = true ↔ .flag .dryRun ∈ entries
  report : request.report = valueOf entries (.setting .report)

/-- Entries ask for one thing only. -/
theorem Carries.unique {entries : List Entry} {request other : Request}
    (h : Carries entries request) (h' : Carries entries other) : request = other := by
  have hlauncher : request.settings.launcher = other.settings.launcher :=
    (Option.map_inj_right fun _ _ => Utf8.encode_inj.mp).mp (h.launcher.trans h'.launcher.symm)
  have hextension : request.settings.extension = other.settings.extension :=
    Utf8.encode_inj.mp (h.extension.trans h'.extension.symm)
  have honFailure : request.settings.onFailure = other.settings.onFailure :=
    Policy.name_inj.mp (Utf8.encode_inj.mp (h.onFailure.trans h'.onFailure.symm))
  have hverbose : request.settings.verbose = other.settings.verbose :=
    Bool.eq_iff_iff.mpr (h.verbose.trans h'.verbose.symm)
  have hskip : request.settings.skipUpToDate = other.settings.skipUpToDate :=
    Bool.eq_iff_iff.mpr (h.skipUpToDate.trans h'.skipUpToDate.symm)
  have hdry : request.settings.dryRun = other.settings.dryRun :=
    Bool.eq_iff_iff.mpr (h.dryRun.trans h'.dryRun.symm)
  have hscriptsDir := h.scriptsDir.trans h'.scriptsDir.symm
  have htreesDir := h.treesDir.trans h'.treesDir.symm
  have hexecutable := h.executable.trans h'.executable.symm
  have hreport := h.report.trans h'.report.symm
  rcases request with ⟨⟨⟩, _⟩
  rcases other with ⟨⟨⟩, _⟩
  simp_all only

/-- What was given asks for the values of the entries that it was given by. -/
theorem Given.carries {given : Given} {entries : List Entry}
    (h : ∀ switch, given.look switch = valueOf entries switch) :
    Carries entries given.request := by
  have hflag : ∀ flag, given.hasFlag flag = true ↔ .flag flag ∈ entries := by
    intro flag
    rw [flag_mem_iff, ← h, look]
    cases given.hasFlag flag <;> simp
  refine ⟨?_, ?_, ?_, ?_, ?_, ?_, hflag .verbose, hflag .skipUpToDate, hflag .dryRun, ?_⟩
  · rw [← h]
    rfl
  · rw [← h]
    rfl
  · rw [← h]
    rfl
  · rw [← h]
    rfl
  · have hvalue : (given.look (.setting .extension)).getD (Utf8.encode "boink") =
        Utf8.encode (given.extension.getD "boink") := by
      rw [look]
      cases given.extension <;> rfl
    rw [← h, hvalue, Utf8.encode, Utf8.encode, request, String.toList_ofList]
    exact Utf8.flatMap_dropWhile (by decide : '.'.toNat < 0x80) _
  · rw [← h, look, request]
    cases given.onFailure <;> rfl
  · rw [← h]
    rfl

/-- Entries that are taken at first are asked for. -/
theorem Given.carries_of_takeAll {given : Given} {entries : List Entry}
    (h : takeAll {} entries = .ok given) : Carries entries given.request := by
  apply carries
  intro switch
  rw [(look_of_takeAll h).2.2, look_empty, Option.or_none]

/-- Without variables a command line asks for what it gives. -/
theorem parse_empty_eq_ok_iff {arguments : List Bytes} {request : Request} :
    parse {} arguments = .ok request ↔
      ∃ given, readArguments {} .nothing arguments = .ok given ∧ given.request = request := by
  have hcompleted : completed {} = Except.ok := rfl
  rw [parse, map_eq_ok_iff, hcompleted]
  simp only [bind_eq_ok_iff, Except.ok.injEq, exists_eq_right]

/-- A command line is accepted, in an environment without variables, exactly if it is written for
options, followed perhaps by the end mark, no option stands twice and each has a value that it
admits; and it asks for the values of these options and the defaults of the others. -/
theorem parse_eq_ok_iff_written (arguments : List Bytes) (request : Request) :
    parse {} arguments = .ok request ↔
      ∃ entries, Written entries arguments ∧ (entries.map Entry.switch).Nodup ∧
        (∀ entry ∈ entries, entry.Admissible) ∧ Carries entries request := by
  rw [parse_empty_eq_ok_iff]
  constructor
  · rintro ⟨given, hread, rfl⟩
    obtain ⟨entries, hwritten, htake⟩ := exists_written_of_readArguments hread
    obtain ⟨hnodup, hentries, -⟩ := Given.look_of_takeAll htake
    exact ⟨entries, hwritten, hnodup, fun entry hentry => (hentries entry hentry).2,
      Given.carries_of_takeAll htake⟩
  · rintro ⟨entries, hwritten, hnodup, hadmissible, hcarries⟩
    have hentries : ∀ entry ∈ entries, Given.look {} entry.switch = none ∧ entry.Admissible :=
      fun entry hentry => ⟨Given.look_empty _, hadmissible entry hentry⟩
    obtain ⟨given, htake⟩ := Given.exists_takeAll_eq_ok hnodup hentries
    exact ⟨given, hwritten.readArguments htake, (Given.carries_of_takeAll htake).unique hcarries⟩

end Options

end Fixtures
