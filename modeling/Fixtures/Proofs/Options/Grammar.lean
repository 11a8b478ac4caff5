import Fixtures.Proofs.Options.Entries

/-!
# How options are written

A command line is a row of pieces, perhaps with an end mark behind them. A piece is a long name, a
long name with its value, or a group of short names; a value stands in the argument of its option or
in one of its own. Reading accepts exactly the command lines that are written so, and takes their
options as they stand.
-/

namespace Fixtures

namespace Options

/-- The long name of an option, without its dashes. -/
def Switch.name : Switch → String
  | flag .verbose => "verbose"
  | flag .skipUpToDate => "skip-up-to-date"
  | flag .dryRun => "dry-run"
  | setting .dir => "dir"
  | setting .outDir => "out-dir"
  | setting .exe => "exe"
  | setting .launcher => "launcher"
  | setting .extension => "extension"
  | setting .onFailure => "on-failure"
  | setting .report => "report"
  | help => "help"
  | version => "version"

/-- The argument that is just the long name of an option. -/
def Switch.word (switch : Switch) : Bytes := Utf8.encode ("--" ++ switch.name)

/-- The short name of a setting, if it has one: the letter d, o or e. -/
def Setting.letter? : Setting → Option UInt8
  | dir => some 0x64
  | outDir => some 0x6F
  | exe => some 0x65
  | _ => none

/-- Whether bytes can be the value of an option as an argument of their own: they do not begin with
a dash, unless they are just a dash. -/
def StandsAlone (raw : Bytes) : Prop := raw.head? = some 0x2D → raw = [0x2D]

/-- An option that is written with its short name: the letters behind the dash, and the arguments
that follow. A value stands directly behind its letter, behind an equals sign, or alone. -/
inductive Short : Entry → Bytes → List Bytes → Prop
  | verbose : Short (.flag .verbose) [0x76] []
  | attached {setting : Setting} {letter first : UInt8} {rest : Bytes}
      (hletter : setting.letter? = some letter) (hfirst : first ≠ 0x3D) :
      Short (.setting setting (first :: rest)) (letter :: first :: rest) []
  | joined {setting : Setting} {letter : UInt8} {raw : Bytes}
      (hletter : setting.letter? = some letter) :
      Short (.setting setting raw) (letter :: 0x3D :: raw) []
  | separate {setting : Setting} {letter : UInt8} {raw : Bytes}
      (hletter : setting.letter? = some letter) (hraw : StandsAlone raw) :
      Short (.setting setting raw) [letter] [raw]

/-- The options that one or two arguments stand for. -/
inductive Piece : List Entry → List Bytes → Prop
  /-- The long name of a flag. -/
  | flag (flag : Flag) : Piece [.flag flag] [Switch.word (.flag flag)]
  /-- The long name of a setting, an equals sign and the value. -/
  | joined (setting : Setting) (raw : Bytes) :
    Piece [.setting setting raw] [Switch.word (.setting setting) ++ 0x3D :: raw]
  /-- The long name of a setting, and the value as an argument of its own. -/
  | separate (setting : Setting) {raw : Bytes} (hraw : StandsAlone raw) :
    Piece [.setting setting raw] [Switch.word (.setting setting), raw]
  /-- A short name. -/
  | short {entry : Entry} {letters : Bytes} {values : List Bytes}
    (h : Short entry letters values) : Piece [entry] ((0x2D :: letters) :: values)
  /-- The short name of the flag in front of another short name. -/
  | glued {entry : Entry} {letters : Bytes} {values : List Bytes}
    (h : Short entry letters values) :
    Piece [.flag .verbose, entry] ((0x2D :: 0x76 :: letters) :: values)

/-- The options that a command line is written for. -/
inductive Written : List Entry → List Bytes → Prop
  /-- No arguments. -/
  | nil : Written [] []
  /-- The end mark, which nothing may follow. -/
  | endMark : Written [] [Utf8.encode "--"]
  /-- A piece and what follows it. -/
  | piece {entries others : List Entry} {words rest : List Bytes} (h : Piece entries words)
    (hrest : Written others rest) : Written (entries ++ others) (words ++ rest)

/-- Bytes that stand alone do not start as an option. -/
theorem standsAlone_iff {raw : Bytes} :
    StandsAlone raw ↔ ∀ letter letters, raw ≠ 0x2D :: letter :: letters := by
  constructor
  · rintro h letter letters rfl
    cases h rfl
  · intro h hdash
    cases raw with
    | nil => cases hdash
    | cons first rest =>
      cases hdash
      cases rest with
      | nil => rfl
      | cons letter letters => exact absurd rfl (h letter letters)

/-- The word of an option is two dashes and its name. -/
theorem Switch.word_eq (switch : Switch) :
    switch.word = 0x2D :: 0x2D :: Utf8.encode switch.name := by
  simp only [word, Utf8.encode, String.toList_append, List.flatMap_append]
  rfl

/-- The word of a flag is the argument for it. -/
theorem Switch.word_flag (flag : Flag) : word (.flag flag) = flagArgument flag := by
  cases flag <;> rfl

/-- An option is known by its name. -/
theorem Switch.ofLong?_eq_some_iff {name : String} {switch : Switch} :
    ofLong? name = some switch ↔ name = switch.name := by
  constructor
  · intro h
    unfold ofLong? at h
    split at h <;> cases h <;> rfl
  · rintro rfl
    cases switch with
    | flag flag => cases flag <;> rfl
    | setting setting => cases setting <;> rfl
    | help => rfl
    | version => rfl

/-- The bytes of an option's name lead to it, and no others do. -/
theorem Switch.ofBytes?_eq_some_iff {name : Bytes} {switch : Switch} :
    (Utf8.text? name).bind ofLong? = some switch ↔ name = Utf8.encode switch.name := by
  simp only [Option.bind_eq_some_iff, ofLong?_eq_some_iff, Utf8.text?_eq_some_iff]
  constructor
  · rintro ⟨text, hname, rfl⟩
    exact hname
  · intro h
    exact ⟨_, h, rfl⟩

/-- A letter leads to a setting exactly if it is the setting's letter. -/
theorem Switch.ofShort?_eq_setting_iff {letter : UInt8} {setting : Setting} :
    ofShort? letter = some (.setting setting) ↔ setting.letter? = some letter := by
  constructor
  · intro h
    unfold ofShort? at h
    repeat' split at h
    all_goals cases h
    all_goals simp [Setting.letter?, *]
  · intro h
    cases setting <;> cases h <;> rfl

/-- A letter leads to a flag exactly if it is the letter v. -/
theorem Switch.ofShort?_eq_flag_iff {letter : UInt8} {flag : Flag} :
    ofShort? letter = some (.flag flag) ↔ letter = 0x76 ∧ flag = .verbose := by
  constructor
  · intro h
    unfold ofShort? at h
    repeat' split at h
    all_goals cases h
    exact ⟨‹_›, rfl⟩
  · rintro ⟨rfl, rfl⟩
    rfl

/-- There is no equals sign in the name of an option. -/
theorem Switch.bytes_name_ne {switch : Switch} {b : UInt8} (h : b ∈ Utf8.encode switch.name) :
    (b != 0x3D) = true := by
  have hall : (Utf8.encode switch.name).all (· != 0x3D) = true := by
    cases switch with
    | flag flag => cases flag <;> decide
    | setting setting => cases setting <;> decide
    | help => decide
    | version => decide
  exact List.all_eq_true.mp hall b h

/-- The name of an option is cut off at the first equals sign behind it. -/
theorem Switch.cut_name (switch : Switch) (rest : Bytes) :
    (Utf8.encode switch.name ++ rest).takeWhile (· != 0x3D) =
        Utf8.encode switch.name ++ rest.takeWhile (· != 0x3D) ∧
      (Utf8.encode switch.name ++ rest).dropWhile (· != 0x3D) = rest.dropWhile (· != 0x3D) :=
  ⟨List.takeWhile_append_of_pos fun _ => bytes_name_ne,
    List.dropWhile_append_of_pos fun _ => bytes_name_ne⟩

/-- The name of a setting with its value takes the value. -/
theorem readLong_joined (given : Given) (setting : Setting) (raw : Bytes) :
    readLong given .nothing (Utf8.encode (Switch.name (.setting setting)) ++ 0x3D :: raw) =
      (orRefuse (given.accept setting raw)).map fun g => (g, .nothing) := by
  obtain ⟨hname, hvalue⟩ := Switch.cut_name (.setting setting) (0x3D :: raw)
  rw [List.takeWhile_cons_of_neg (by decide), List.append_nil] at hname
  rw [List.dropWhile_cons_of_neg (by decide)] at hvalue
  simp only [readLong, hname, hvalue, Switch.ofBytes?_eq_some_iff.mpr rfl]
  rfl

/-- The name of a setting alone awaits a value. -/
theorem readLong_word (given : Given) (setting : Setting) :
    readLong given .nothing (Utf8.encode (Switch.name (.setting setting))) =
      .ok (given, .awaiting setting) := by
  obtain ⟨hname, hvalue⟩ := Switch.cut_name (.setting setting) []
  rw [List.append_nil, List.takeWhile_nil, List.append_nil] at hname
  rw [List.append_nil, List.dropWhile_nil] at hvalue
  simp only [readLong, hname, hvalue, Switch.ofBytes?_eq_some_iff.mpr rfl]
  rfl

/-- A long option that is accepted is a flag, a setting with its value, or a setting that awaits
one. -/
theorem cases_of_readLong {given : Given} {body : Bytes} {next : Given × Pending}
    (h : readLong given .nothing body = .ok next) :
    (∃ flag, body = Utf8.encode (Switch.name (.flag flag))) ∨
      (∃ setting raw, body = Utf8.encode (Switch.name (.setting setting)) ++ 0x3D :: raw) ∨
      ∃ setting, body = Utf8.encode (Switch.name (.setting setting)) ∧
        next = (given, .awaiting setting) := by
  have hbody : body.takeWhile (· != 0x3D) ++ body.dropWhile (· != 0x3D) = body :=
    List.takeWhile_append_dropWhile
  have hequals : ∀ b rest, body.dropWhile (· != 0x3D) = b :: rest → b = 0x3D := by
    intro b rest hdrop
    have hne : body.dropWhile (· != 0x3D) ≠ [] := by simp [hdrop]
    have hhead := List.head_dropWhile_not (· != 0x3D) hne
    simpa [hdrop] using hhead
  simp only [readLong] at h
  cases hswitch : (Utf8.text? (body.takeWhile (· != 0x3D))).bind Switch.ofLong? with
  | none => simp [hswitch, refuse] at h
  | some switch =>
    rw [Switch.ofBytes?_eq_some_iff.mp hswitch] at hbody
    rw [hswitch] at h
    cases hvalue : body.dropWhile (· != 0x3D) with
    | nil =>
      rw [hvalue, List.append_nil] at hbody
      rw [hvalue] at h
      cases switch with
      | flag flag => exact .inl ⟨flag, hbody.symm⟩
      | setting setting =>
        cases h
        exact .inr (.inr ⟨setting, hbody.symm, rfl⟩)
      | help => cases h
      | version => cases h
    | cons b raw =>
      rw [hvalue, hequals b raw hvalue] at hbody
      rw [hvalue] at h
      cases switch with
      | setting setting => exact .inr (.inl ⟨setting, raw, hbody.symm⟩)
      | flag flag => cases h
      | help => cases h
      | version => cases h

/-- An option in the place of an awaited value is refused. -/
theorem readArgument_awaiting_ne_ok {given : Given} {setting : Setting} {letter : UInt8}
    {letters : Bytes} {next : Given × Pending} :
    readArgument given (.awaiting setting) (0x2D :: letter :: letters) ≠ .ok next := by
  have hopen : Pending.settle (.awaiting setting) given =
      refuse (.missingValue setting.label) := rfl
  intro h
  unfold readArgument at h
  split at h
  · unfold readLong at h
    simp only [hopen, refuse, Except.bind, Except.map] at h
    split at h <;> cases h
  · simp only [readShorts, hopen, refuse, Except.bind] at h
    split at h <;> cases h
  · next hvalue => exact absurd rfl (hvalue letter letters)

/-- A setting that awaits a value takes the next argument, which must stand alone. -/
theorem readArguments_awaiting_eq_ok_iff {given out : Given} {setting : Setting}
    {arguments : List Bytes} :
    readArguments given (.awaiting setting) arguments = .ok out ↔
      ∃ raw rest taken, arguments = raw :: rest ∧ StandsAlone raw ∧
        given.accept setting raw = .ok taken ∧ readArguments taken .nothing rest = .ok out := by
  have hheld : ∀ {raw : Bytes}, StandsAlone raw →
      readArgument given (.awaiting setting) raw = .ok (given, .holding setting raw) := by
    intro raw hraw
    unfold readArgument
    split
    · exact absurd rfl (standsAlone_iff.mp hraw _ _)
    · exact absurd rfl (standsAlone_iff.mp hraw _ _)
    · rfl
  constructor
  · intro h
    cases arguments with
    | nil => cases h
    | cons raw rest =>
      by_cases hend : raw = [0x2D, 0x2D]
      · subst hend
        cases rest <;> cases h
      · obtain ⟨next, hread, hrest⟩ := (readArguments_cons_eq_ok_iff hend).mp h
        have hraw : StandsAlone raw := by
          rw [standsAlone_iff]
          rintro letter letters rfl
          exact readArgument_awaiting_ne_ok hread
        cases (hheld hraw).symm.trans hread
        obtain ⟨taken, haccept, hrest⟩ := readArguments_holding_eq_ok_iff.mp hrest
        exact ⟨raw, rest, taken, rfl, hraw, haccept, hrest⟩
  · rintro ⟨raw, rest, taken, rfl, hraw, haccept, hrest⟩
    have hend : raw ≠ [0x2D, 0x2D] := standsAlone_iff.mp hraw _ _
    rw [readArguments_cons_eq_ok_iff hend]
    exact ⟨_, hheld hraw, readArguments_holding_eq_ok_iff.mpr ⟨taken, haccept, hrest⟩⟩

/-- The letter of the flag settles what is open and takes the flag before the other letters. -/
theorem readShorts_letter_eq_ok_iff {given : Given} {pending : Pending} {letters : Bytes}
    {next : Given × Pending} :
    readShorts given pending (0x76 :: letters) = .ok next ↔
      ∃ settled taken, pending.settle given = .ok settled ∧
        settled.acceptFlag .verbose = .ok taken ∧
          readShorts taken .nothing letters = .ok next := by
  have hswitch : Switch.ofShort? 0x76 = some (.flag .verbose) := rfl
  simp only [readShorts, hswitch]
  cases hsettle : pending.settle given with
  | error stop => simp [Except.bind]
  | ok settled =>
    cases haccept : settled.acceptFlag .verbose with
    | error stop => simp [Except.bind, orRefuse, refuse, haccept]
    | ok taken => simp [Except.bind, orRefuse, haccept]

/-- Where nothing is open, the letter of the flag just takes the flag before the other letters. -/
theorem readShorts_verbose_eq_ok_iff {given : Given} {letters : Bytes} {next : Given × Pending} :
    readShorts given .nothing (0x76 :: letters) = .ok next ↔
      ∃ taken, given.acceptFlag .verbose = .ok taken ∧
        readShorts taken .nothing letters = .ok next := by
  simp [readShorts_letter_eq_ok_iff, Pending.settle]

/-- The letter of a setting awaits a value, or takes what stands behind it. -/
theorem readShorts_setting {setting : Setting} {letter : UInt8}
    (h : setting.letter? = some letter) (given : Given) (rest : Bytes) :
    readShorts given .nothing (letter :: rest) =
      if rest = [] then .ok (given, .awaiting setting)
      else (orRefuse (given.accept setting (attached rest))).map fun g => (g, .nothing) := by
  simp only [readShorts, Switch.ofShort?_eq_setting_iff.mpr h]
  rfl

/-- Letters that are accepted start with the letter of the flag or of a setting. -/
theorem cases_of_readShorts {given : Given} {letter : UInt8} {letters : Bytes}
    {next : Given × Pending} (h : readShorts given .nothing (letter :: letters) = .ok next) :
    letter = 0x76 ∨ ∃ setting : Setting, setting.letter? = some letter := by
  cases hswitch : Switch.ofShort? letter with
  | none => simp [readShorts, hswitch, refuse] at h
  | some switch =>
    cases switch with
    | flag flag => exact .inl (Switch.ofShort?_eq_flag_iff.mp hswitch).1
    | setting setting => exact .inr ⟨setting, Switch.ofShort?_eq_setting_iff.mp hswitch⟩
    | help => simp [readShorts, hswitch, Pending.settle, Except.bind] at h
    | version => simp [readShorts, hswitch, Pending.settle, Except.bind] at h

/-- Reading a short name and what belongs to it takes its option. -/
theorem Short.read_iff {entry : Entry} {letters : Bytes} {values rest : List Bytes}
    (h : Short entry letters values) {given out : Given} :
    (∃ next, readShorts given .nothing letters = .ok next ∧
        readArguments next.1 next.2 (values ++ rest) = .ok out) ↔
      ∃ taken, given.take entry = .ok taken ∧ readArguments taken .nothing rest = .ok out := by
  -- A value in the same argument is taken at once.
  have hattached : ∀ {setting : Setting} {raw : Bytes} {letters : Bytes},
      readShorts given .nothing letters =
        (orRefuse (given.accept setting raw)).map (fun g => (g, .nothing)) →
      ((∃ next, readShorts given .nothing letters = .ok next ∧
          readArguments next.1 next.2 ([] ++ rest) = .ok out) ↔
        ∃ taken, given.take (.setting setting raw) = .ok taken ∧
          readArguments taken .nothing rest = .ok out) := by
    intro setting raw letters hread
    simp only [hread, map_eq_ok_iff, orRefuse_eq_ok_iff]
    constructor
    · rintro ⟨_, ⟨taken, htake, rfl⟩, hrest⟩
      exact ⟨taken, htake, hrest⟩
    · rintro ⟨taken, htake, hrest⟩
      exact ⟨_, ⟨taken, htake, rfl⟩, hrest⟩
  cases h with
  | verbose =>
    simp only [readShorts_verbose_eq_ok_iff]
    constructor
    · rintro ⟨_, ⟨taken, htake, hnone⟩, hrest⟩
      cases hnone
      exact ⟨taken, htake, hrest⟩
    · rintro ⟨taken, htake, hrest⟩
      exact ⟨_, ⟨taken, htake, rfl⟩, hrest⟩
  | @attached setting letter first rest hletter hfirst =>
    apply hattached
    rw [readShorts_setting hletter, if_neg (List.cons_ne_nil _ _), Options.attached]
    simp [hfirst]
  | @joined setting letter raw hletter =>
    apply hattached
    rw [readShorts_setting hletter, if_neg (List.cons_ne_nil _ _), Options.attached]
  | @separate setting letter raw hletter hraw =>
    rw [readShorts_setting hletter, if_pos rfl]
    simp only [Except.ok.injEq, exists_eq_left', readArguments_awaiting_eq_ok_iff]
    constructor
    · rintro ⟨_, _, taken, heq, -, htake, hrest⟩
      cases heq
      exact ⟨taken, htake, hrest⟩
    · rintro ⟨taken, htake, hrest⟩
      exact ⟨raw, rest, taken, rfl, hraw, htake, hrest⟩

/-- Arguments that start with a group of short names. -/
theorem readArguments_shorts_eq_ok_iff {given out : Given} {letter : UInt8} {letters : Bytes}
    {rest : List Bytes} (h : letter ≠ 0x2D) :
    readArguments given .nothing ((0x2D :: letter :: letters) :: rest) = .ok out ↔
      ∃ next, readShorts given .nothing (letter :: letters) = .ok next ∧
        readArguments next.1 next.2 rest = .ok out := by
  have hend : 0x2D :: letter :: letters ≠ [0x2D, 0x2D] := by simp [h]
  rw [readArguments_cons_eq_ok_iff hend, readArgument]
  exact h

/-- Arguments that start with a long option. -/
theorem readArguments_long_eq_ok_iff {given out : Given} {body : Bytes} {rest : List Bytes}
    (h : body ≠ []) :
    readArguments given .nothing ((0x2D :: 0x2D :: body) :: rest) = .ok out ↔
      ∃ next, readLong given .nothing body = .ok next ∧
        readArguments next.1 next.2 rest = .ok out := by
  have hend : 0x2D :: 0x2D :: body ≠ [0x2D, 0x2D] := by simp [h]
  rw [readArguments_cons_eq_ok_iff hend, readArgument]

/-- A short name starts with a letter that is no dash. -/
theorem Short.exists_cons {entry : Entry} {letters : Bytes} {values : List Bytes}
    (h : Short entry letters values) :
    ∃ letter others, letters = letter :: others ∧ letter ≠ 0x2D := by
  have hletter : ∀ {setting : Setting} {letter : UInt8}, setting.letter? = some letter →
      letter ≠ 0x2D := by
    intro setting letter heq
    cases setting <;> cases heq <;> decide
  cases h with
  | verbose => exact ⟨_, _, rfl, by decide⟩
  | attached heq _ => exact ⟨_, _, rfl, hletter heq⟩
  | joined heq => exact ⟨_, _, rfl, hletter heq⟩
  | separate heq _ => exact ⟨_, _, rfl, hletter heq⟩

/-- Reading a piece takes its options. -/
theorem Piece.read_iff {entries : List Entry} {words rest : List Bytes} (h : Piece entries words)
    {given out : Given} :
    readArguments given .nothing (words ++ rest) = .ok out ↔
      ∃ taken, given.takeAll entries = .ok taken ∧ readArguments taken .nothing rest = .ok out := by
  cases h with
  | flag flag =>
    rw [Switch.word_flag, List.singleton_append, readArguments_flag_eq_ok_iff]
    simp only [Given.takeAll_singleton, Given.take, Given.acceptFlag_eq_ok_iff]
    constructor
    · rintro ⟨settled, hsettle, hfirst, hrest⟩
      cases hsettle
      exact ⟨_, ⟨hfirst, rfl⟩, hrest⟩
    · rintro ⟨_, ⟨hfirst, rfl⟩, hrest⟩
      exact ⟨given, rfl, hfirst, hrest⟩
  | joined setting raw =>
    have hbody : Utf8.encode (Switch.name (.setting setting)) ++ 0x3D :: raw ≠ [] := by simp
    rw [Switch.word_eq, List.singleton_append, List.cons_append, List.cons_append,
      readArguments_long_eq_ok_iff hbody, readLong_joined]
    simp only [Given.takeAll_singleton, Given.take, map_eq_ok_iff, orRefuse_eq_ok_iff]
    constructor
    · rintro ⟨_, ⟨taken, htake, rfl⟩, hrest⟩
      exact ⟨taken, htake, hrest⟩
    · rintro ⟨taken, htake, hrest⟩
      exact ⟨_, ⟨taken, htake, rfl⟩, hrest⟩
  | @separate setting raw hraw =>
    have hbody : Utf8.encode (Switch.name (.setting setting)) ≠ [] := by
      cases setting <;> decide
    rw [Switch.word_eq, List.cons_append, List.singleton_append,
      readArguments_long_eq_ok_iff hbody, readLong_word]
    simp only [Given.takeAll_singleton, Given.take, Except.ok.injEq, exists_eq_left',
      readArguments_awaiting_eq_ok_iff]
    constructor
    · rintro ⟨_, _, taken, heq, -, htake, hrest⟩
      cases heq
      exact ⟨taken, htake, hrest⟩
    · rintro ⟨taken, htake, hrest⟩
      exact ⟨raw, rest, taken, rfl, hraw, htake, hrest⟩
  | short h =>
    obtain ⟨letter, others, rfl, hletter⟩ := h.exists_cons
    rw [List.cons_append, readArguments_shorts_eq_ok_iff hletter, h.read_iff,
      Given.takeAll_singleton]
  | glued h =>
    rw [List.cons_append, readArguments_shorts_eq_ok_iff (by decide)]
    simp only [readShorts_verbose_eq_ok_iff, Given.takeAll_cons_eq_ok_iff, Given.takeAll_singleton]
    constructor
    · rintro ⟨next, ⟨loud, hflag, hread⟩, hrest⟩
      obtain ⟨taken, htake, hrest⟩ := h.read_iff.mp ⟨next, hread, hrest⟩
      exact ⟨taken, ⟨loud, hflag, htake⟩, hrest⟩
    · rintro ⟨taken, ⟨loud, hflag, htake⟩, hrest⟩
      obtain ⟨next, hread, hrest⟩ := h.read_iff.mpr ⟨taken, htake, hrest⟩
      exact ⟨next, ⟨loud, hflag, hread⟩, hrest⟩

/-- Letters that start with that of a setting and are accepted with what follows are its short name
with a value. -/
theorem exists_short_of_setting {setting : Setting} {letter : UInt8} {letters : Bytes}
    (hletter : setting.letter? = some letter) {given out : Given} {next : Given × Pending}
    {rest : List Bytes} (hread : readShorts given .nothing (letter :: letters) = .ok next)
    (hrest : readArguments next.1 next.2 rest = .ok out) :
    ∃ entry values others, Short entry (letter :: letters) values ∧ rest = values ++ others := by
  cases letters with
  | nil =>
    rw [readShorts_setting hletter, if_pos rfl] at hread
    cases hread
    obtain ⟨raw, others, _, rfl, hraw, -, -⟩ := readArguments_awaiting_eq_ok_iff.mp hrest
    exact ⟨_, [raw], others, .separate hletter hraw, rfl⟩
  | cons first letters =>
    by_cases hfirst : first = 0x3D
    · subst hfirst
      exact ⟨_, [], rest, .joined hletter, rfl⟩
    · exact ⟨_, [], rest, .attached hletter hfirst, rfl⟩

/-- A group of short names that is accepted with what follows is a piece. -/
theorem exists_piece_of_readShorts {given out : Given} {letter : UInt8} {letters : Bytes}
    {next : Given × Pending} {rest : List Bytes}
    (hread : readShorts given .nothing (letter :: letters) = .ok next)
    (hrest : readArguments next.1 next.2 rest = .ok out) :
    ∃ entries values others, Piece entries ((0x2D :: letter :: letters) :: values) ∧
      rest = values ++ others := by
  rcases cases_of_readShorts hread with rfl | ⟨setting, hletter⟩
  · obtain ⟨loud, hflag, hread⟩ := readShorts_verbose_eq_ok_iff.mp hread
    cases letters with
    | nil => exact ⟨_, [], rest, .short .verbose, rfl⟩
    | cons second letters =>
      rcases cases_of_readShorts hread with rfl | ⟨setting, hletter⟩
      · -- The flag cannot be given twice.
        obtain ⟨_, hagain, -⟩ := readShorts_verbose_eq_ok_iff.mp hread
        obtain ⟨-, rfl⟩ := Given.acceptFlag_eq_ok_iff.mp hflag
        cases (Given.acceptFlag_eq_ok_iff.mp hagain).1
      · obtain ⟨entry, values, others, hshort, rfl⟩ :=
          exists_short_of_setting hletter hread hrest
        exact ⟨_, values, others, .glued hshort, rfl⟩
  · obtain ⟨entry, values, others, hshort, rfl⟩ := exists_short_of_setting hletter hread hrest
    exact ⟨_, values, others, .short hshort, rfl⟩

/-- Arguments that are accepted start with a piece or are just the end mark. -/
theorem exists_piece_of_readArguments {given out : Given} {argument : Bytes} {rest : List Bytes}
    (h : readArguments given .nothing (argument :: rest) = .ok out) :
    (argument = [0x2D, 0x2D] ∧ rest = []) ∨
      ∃ entries words others, Piece entries words ∧ argument :: rest = words ++ others := by
  by_cases hend : argument = [0x2D, 0x2D]
  · subst hend
    cases rest with
    | nil => exact .inl ⟨rfl, rfl⟩
    | cons extra rest => exact absurd h readArguments_endMark_ne_ok
  · right
    by_cases hoption : ∃ letter letters, argument = 0x2D :: letter :: letters
    · obtain ⟨letter, letters, rfl⟩ := hoption
      by_cases hletter : letter = 0x2D
      · subst hletter
        have hbody : letters ≠ [] := by
          rintro rfl
          exact hend rfl
        obtain ⟨next, hread, hrest⟩ := (readArguments_long_eq_ok_iff hbody).mp h
        rcases cases_of_readLong hread with ⟨flag, rfl⟩ | ⟨setting, raw, rfl⟩ | ⟨setting, rfl, rfl⟩
        · refine ⟨_, _, rest, .flag flag, ?_⟩
          rw [Switch.word_eq, List.singleton_append]
        · refine ⟨_, _, rest, .joined setting raw, ?_⟩
          rw [Switch.word_eq, List.singleton_append, List.cons_append, List.cons_append]
        · obtain ⟨raw, others, _, rfl, hraw, -, -⟩ := readArguments_awaiting_eq_ok_iff.mp hrest
          refine ⟨_, _, others, .separate setting hraw, ?_⟩
          rw [Switch.word_eq, List.cons_append, List.singleton_append]
      · obtain ⟨next, hread, hrest⟩ := (readArguments_shorts_eq_ok_iff hletter).mp h
        obtain ⟨entries, values, others, hpiece, rfl⟩ := exists_piece_of_readShorts hread hrest
        exact ⟨entries, _, others, hpiece, rfl⟩
    · -- A value that no option awaits is refused.
      obtain ⟨next, hread, -⟩ := (readArguments_cons_eq_ok_iff hend).mp h
      unfold readArgument at hread
      split at hread
      · exact absurd ⟨_, _, rfl⟩ hoption
      · exact absurd ⟨_, _, rfl⟩ hoption
      · cases hread

/-- A piece has an argument. -/
theorem Piece.length_pos {entries : List Entry} {words : List Bytes} (h : Piece entries words) :
    0 < words.length := by
  cases h <;> simp

/-- Arguments that are accepted are written for options. -/
theorem exists_written_of_readArguments {given out : Given} {arguments : List Bytes}
    (h : readArguments given .nothing arguments = .ok out) :
    ∃ entries, Written entries arguments ∧ given.takeAll entries = .ok out := by
  -- The induction is on the number of arguments, for a piece may have two of them.
  induction hn : arguments.length using Nat.strongRecOn generalizing given arguments with
  | _ n ih =>
    cases arguments with
    | nil =>
      cases h
      exact ⟨[], .nil, rfl⟩
    | cons argument rest =>
      rcases exists_piece_of_readArguments h with ⟨rfl, rfl⟩ | ⟨entries, words, others, hpiece, heq⟩
      · cases h
        exact ⟨[], .endMark, rfl⟩
      · rw [heq] at h hn ⊢
        obtain ⟨taken, htake, hothers⟩ := hpiece.read_iff.mp h
        have hshorter : others.length < n := by
          have hwords := hpiece.length_pos
          rw [List.length_append] at hn
          omega
        obtain ⟨more, hwritten, hmore⟩ := ih others.length hshorter hothers rfl
        exact ⟨_, .piece hpiece hwritten,
          Given.takeAll_append_eq_ok_iff.mpr ⟨taken, htake, hmore⟩⟩

/-- Arguments that are written for options take them and nothing else. -/
theorem Written.readArguments_eq_ok_iff {entries : List Entry} {arguments : List Bytes}
    (h : Written entries arguments) {given out : Given} :
    readArguments given .nothing arguments = .ok out ↔ given.takeAll entries = .ok out := by
  have hnone : ∀ given : Given, given.takeAll [] = .ok given := fun _ => rfl
  induction h generalizing given with
  | nil =>
    have hread : Options.readArguments given .nothing [] = .ok given := rfl
    rw [hread, hnone, Except.ok.injEq, Except.ok.injEq]
  | endMark =>
    have hread : Options.readArguments given .nothing [Utf8.encode "--"] = .ok given := rfl
    rw [hread, hnone, Except.ok.injEq, Except.ok.injEq]
  | piece hpiece _ ih =>
    rw [hpiece.read_iff, Given.takeAll_append_eq_ok_iff]
    simp only [ih]

/-- Arguments that are written for options take them. -/
theorem Written.readArguments {entries : List Entry} {arguments : List Bytes}
    (h : Written entries arguments) {given out : Given} (htake : given.takeAll entries = .ok out) :
    readArguments given .nothing arguments = .ok out :=
  h.readArguments_eq_ok_iff.mpr htake

end Options

end Fixtures
