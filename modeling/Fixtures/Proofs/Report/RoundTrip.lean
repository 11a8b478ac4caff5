import Mathlib
import Fixtures.Proofs.Report.Reader

/-!
# A report can be read back

From the bytes of a report everything can be recovered that a report is meant to show: the scripts
and their parse trees in their shown form, the exit codes, and the outcomes with the reasons of
failures, whatever bytes and characters these hold.

A reader of comma separated values takes the bytes for no rows if there are no records, and
otherwise for the titles and one row of five fields for each record.
-/

namespace Fixtures.Report

/-- What a report shows of a record. -/
structure Shown where
  /-- The shown form of the script. -/
  script : String
  /-- The shown form of its parse tree. -/
  artifact : String
  /-- The exit code. -/
  exitCode : Option Int
  /-- What became of the script. -/
  outcome : Outcome
  deriving DecidableEq, Repr

/-- The part of a record that a report shows. -/
def shown (record : Record) : Shown :=
  ⟨Path.text record.script, Path.text record.artifact, record.exitCode, record.outcome⟩

/-- The number that decimal digits stand for. -/
def natural? (digits : List Char) : Option Nat :=
  if digits ≠ [] ∧ digits.all Char.isDigit then some (Nat.ofDigitChars 10 digits 0) else none

/-- The exit code that a field stands for. An empty field stands for none. -/
def exitCode? (field : String) : Option (Option Int) :=
  match field.toList with
  | [] => some none
  | '-' :: digits => (natural? digits).map fun n : Nat => some (-(n : Int))
  | digits => (natural? digits).map fun n : Nat => some (n : Int)

/-- The outcome that a status and a message stand for. -/
def outcome? (status message : String) : Option Outcome :=
  if status = "failed" then some (.failed message)
  else if status = "success" ∧ message = "" then some .success
  else if status = "skipped" ∧ message = "parse tree up to date" then some .skipped
  else none

/-- What a row of five fields shows. -/
def shown? : List String → Option Shown
  | [script, status, code, artifact, message] =>
    (exitCode? code).bind fun exitCode =>
      (outcome? status message).map fun outcome => ⟨script, artifact, exitCode, outcome⟩
  | _ => none

/-- The texts of the fields of a report, row by row. -/
def table? (data : Bytes) : Option (List (List String)) :=
  (Csv.read data).bind fun rows => rows.mapM fun row => row.mapM Utf8.text?

/-- What a report shows: nothing if it is empty, or the rows under the titles. -/
def entries? (data : Bytes) : Option (List Shown) :=
  (table? data).bind fun
    | [] => some []
    | titles :: rows =>
      if titles = ["script", "status", "exit_code", "artifact", "message"] then rows.mapM shown?
      else none

/-- Decimal digits are read as the number they are written for. -/
theorem natural?_toDigits (n : Nat) : natural? (Nat.toDigits 10 n) = some n := by
  have hdigits : (Nat.toDigits 10 n).all Char.isDigit = true :=
    List.all_eq_true.mpr fun c hc => Nat.isDigit_of_mem_toDigits (by decide) (by decide) hc
  rw [natural?, if_pos ⟨Nat.toDigits_ne_nil, hdigits⟩, Nat.ofDigitChars_ten_toDigits]

/-- A code without a sign is read as it is written. -/
theorem exitCode?_repr (n : Nat) : exitCode? n.repr = some (some (n : Int)) := by
  have hread := natural?_toDigits n
  unfold exitCode?
  rw [Nat.toList_repr]
  split
  · next hnil => exact absurd hnil Nat.toDigits_ne_nil
  · next digits hsign =>
    have hmem : '-' ∈ Nat.toDigits 10 n := hsign ▸ List.mem_cons_self
    exact absurd (Nat.isDigit_of_mem_toDigits (by decide) (by decide) hmem) (by decide)
  · rw [hread]
    rfl

/-- An exit code is read as it is written. -/
theorem exitCode?_toString (code : Int) : exitCode? (toString code) = some (some code) := by
  rw [Int.toString_eq_repr, Int.repr_eq_if]
  split
  · next hsign => rw [exitCode?_repr, Int.toNat_of_nonneg hsign]
  · next hsign =>
    have htext : ("-" ++ (-code).toNat.repr).toList = '-' :: Nat.toDigits 10 (-code).toNat := by
      rw [String.toList_append, Nat.toList_repr]
      rfl
    rw [exitCode?, htext]
    simp only [natural?_toDigits, Option.map_some]
    rw [Int.toNat_of_nonneg (by omega), Int.neg_neg]

/-- A field for an exit code is read as it is written. -/
theorem exitCode?_written (code : Option Int) :
    exitCode? ((code.map toString).getD "") = some code := by
  cases code with
  | none => rfl
  | some code => exact exitCode?_toString code

/-- An outcome is read as it is written. -/
theorem outcome?_written (outcome : Outcome) :
    outcome? (status outcome) (message outcome) = some outcome := by
  cases outcome <;> rfl

/-- A row is read as it is written. -/
theorem shown?_fields (record : Record) : shown? (fields record) = some (shown record) := by
  rw [fields, shown?, exitCode?_written, Option.bind_some, outcome?_written, Option.map_some]
  rfl

/-- The table of a report is read as it is written. -/
theorem table?_render (records : List Record) :
    table? (Utf8.encode (render records)) = some (rows records) := by
  have hrows : ∀ row ∈ rows records, row ≠ [] := by
    intro row hrow
    rw [rows] at hrow
    split at hrow
    · cases hrow
    · rcases List.mem_cons.mp hrow with rfl | hrow
      · nofun
      · obtain ⟨record, -, rfl⟩ := List.mem_map.mp hrow
        nofun
  have hrow : ∀ row : List String, (row.map Utf8.encode).mapM Utf8.text? = some row := by
    intro row
    rw [Utf8.mapM_map_eq_some (h := id) Utf8.text?_encode, List.map_id]
  rw [table?, render, Csv.read_writtenLines _ hrows, Option.bind_some,
    Utf8.mapM_map_eq_some (h := id) hrow, List.map_id]

/-- What a report shows is read as it is written. -/
theorem entries?_render (records : List Record) :
    entries? (Utf8.encode (render records)) = some (records.map shown) := by
  rw [entries?, table?_render, Option.bind_some]
  cases records with
  | nil => rfl
  | cons record rest => exact Utf8.mapM_map_eq_some shown?_fields (record :: rest)

/-- The bytes that a saved report leaves in a regular file. -/
theorem content_of_save {fs after : FileSystem} {path : Path} {location : Location}
    {records : List Record} (hsink : fs.sink path = .ok (.file location))
    (hsave : save fs path records = .ok after) :
    (after.node? location).map Node.content = some (.file (Utf8.encode (render records))) := by
  simp only [save, hsink, Except.ok.injEq] at hsave
  subst hsave
  rw [FileSystem.store, FileSystem.node?_place, if_pos rfl, Option.map_some]

/-- A report loses nothing of what it shows: it is recovered in order from the bytes that are
stored, and tallies whose reports have the same bytes agree on it. -/
theorem save_loses_nothing (fs : FileSystem) (path : Path) (location : Location)
    (hsink : fs.sink path = .ok (.file location)) (tally : Tally) :
    ∃ after data body, save fs path tally.records = .ok after ∧
      (after.node? location).map Node.content = some (.file data) ∧
      table? data = some (if tally.records = [] then [] else
        ["script", "status", "exit_code", "artifact", "message"] :: body) ∧
      body.length = tally.records.length ∧ (∀ row ∈ body, row.length = 5) ∧
      body.mapM shown? = some (tally.records.map shown) ∧
      entries? data = some (tally.records.map shown) ∧
      ∀ (other : Tally) (fs' after' : FileSystem) (path' : Path) (location' : Location),
        fs'.sink path' = .ok (.file location') → save fs' path' other.records = .ok after' →
        (after'.node? location').map Node.content = some (.file data) →
        other.records.map shown = tally.records.map shown := by
  have hsave : save fs path tally.records =
      .ok (fs.store location (Utf8.encode (render tally.records))) := by
    simp only [save, hsink]
  refine ⟨_, Utf8.encode (render tally.records), tally.records.map fields, hsave,
    content_of_save hsink hsave, ?_, List.length_map .., ?_,
    Utf8.mapM_map_eq_some shown?_fields _, entries?_render _, ?_⟩
  · rw [table?_render, rows]
    simp only [List.isEmpty_iff]
    rfl
  · intro row hrow
    obtain ⟨record, -, rfl⟩ := List.mem_map.mp hrow
    rfl
  · intro other fs' after' path' location' hsink' hsave' hcontent
    rw [content_of_save hsink' hsave', Option.some.injEq] at hcontent
    have hdata : Utf8.encode (render other.records) = Utf8.encode (render tally.records) :=
      Content.file.inj hcontent
    have hentries := entries?_render other.records
    rw [hdata, entries?_render, Option.some.injEq] at hentries
    exact hentries.symm

/-- An empty working directory. -/
def emptyDirectory : FileSystem where
  nodes := [([], ⟨.directory, 0o755, 0⟩)]
  distinct := by decide
  cwd := []
  now := 9
  privileged := true

/-- The name of a script is no text, and the reason of its failure holds all that is quoted. -/
theorem save_loses_nothing_quoted :
    let reason := "a,\"b\"\r\n"
    let tally := Tally.ofRecords [⟨[0xFF, 0x2C], Path.ofText "t.json", some (-1), .failed reason⟩]
    ∃ after data, save emptyDirectory (Path.ofText "r.csv") tally.records = .ok after ∧
      (after.node? [Path.ofText "r.csv"]).map Node.content = some (.file data) ∧
      entries? data = some [⟨"\uFFFD,", "t.json", some (-1), .failed reason⟩] := by
  intro reason tally
  have hsink : emptyDirectory.sink (Path.ofText "r.csv") = .ok (.file [Path.ofText "r.csv"]) := by
    cbv
  have hshown : tally.records.map shown = [⟨"\uFFFD,", "t.json", some (-1), .failed reason⟩] := by
    decide +kernel
  obtain ⟨after, data, -, hsave, hcontent, -, -, -, -, hentries, -⟩ :=
    save_loses_nothing emptyDirectory (Path.ofText "r.csv") [Path.ofText "r.csv"] hsink tally
  exact ⟨after, data, hsave, hcontent, hentries.trans (congrArg some hshown)⟩

end Fixtures.Report
