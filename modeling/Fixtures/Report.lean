import Fixtures.Failure
import Fixtures.FileSystem.Write
import Fixtures.Tally

/-!
# The report of a batch

One line of comma separated values for each record, under a header. A field with a comma, a quote or
a line break is quoted, and a quote inside is doubled. Without records there is no header either.
The report replaces the file it is written to.
-/

namespace Fixtures.Report

/-- Whether a field is written between quotes. -/
def needsQuotes (field : List Char) : Bool :=
  field.any fun c => c == ',' || c == '"' || c == '\n' || c == '\r'

/-- The characters of a field with each quote doubled. -/
def doubled (field : List Char) : List Char :=
  field.flatMap fun c => if c = '"' then ['"', '"'] else [c]

/-- A field as it is written. -/
def writtenField (field : List Char) : List Char :=
  if needsQuotes field then '"' :: doubled field ++ ['"'] else field

/-- A line of fields. -/
def writtenLine (fields : List String) : List Char :=
  [','].intercalate (fields.map fun field => writtenField field.toList) ++ ['\n']

/-- The names of the columns. -/
def header : List String := ["script", "status", "exit_code", "artifact", "message"]

/-- The word for an outcome. -/
def status : Outcome → String
  | .success => "success"
  | .skipped => "skipped"
  | .failed _ => "failed"

/-- What is said of an outcome. -/
def message : Outcome → String
  | .success => ""
  | .skipped => "parse tree up to date"
  | .failed reason => reason

/-- The fields of a record. An absent exit code is an empty field. -/
def fields (record : Record) : List String :=
  [Path.text record.script, status record.outcome, (record.exitCode.map toString).getD "",
    Path.text record.artifact, message record.outcome]

/-- The lines of a report: the header and one line for each record, or nothing at all. -/
def rows (records : List Record) : List (List String) :=
  if records.isEmpty then [] else header :: records.map fields

/-- The text of a report. -/
def render (records : List Record) : String :=
  String.ofList ((rows records).flatMap writtenLine)

/-- The number of bytes that are collected before they are passed on. -/
def bufferSize : Nat := 8192

/-- Whether a report of `size` bytes is written where only the first `taken` of them are taken. That
others are refused is noticed while writing if some full buffer is not taken, and at the last flush
otherwise. -/
def delivery (path : Path) (size taken : Nat) : Except Failure Unit :=
  if size ≤ taken then .ok ()
  else if taken < (size - 1) / bufferSize * bufferSize then
    .error (.reportRefused IoError.noSpace.message)
  else .error (.fileNotWritten (Path.text path))

/-- The files after the report of some records was written to a path. An outlet of the process is no
file. -/
def save (fs : FileSystem) (path : Path) (records : List Record) : Except Failure FileSystem :=
  let data := Utf8.encode (render records)
  match fs.sink path with
  | .error e => .error (.reportRefused e.message)
  | .ok (.file location) => .ok (fs.store location data)
  | .ok .swallow => .ok fs
  | .ok (.outlet _) => .ok fs
  | .ok .refuse => (delivery path data.length 0).map fun _ => fs

end Fixtures.Report
