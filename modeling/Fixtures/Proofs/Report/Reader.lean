import Fixtures.Report
import Fixtures.Proofs.Text.Utf8

/-!
# Reading comma separated values

A reader that goes through a report byte by byte. Fields are divided by commas and records end with
a line feed. A field may stand between quotes, where a quote is written twice; outside of quotes
there is no quote, and no carriage return either. The reader is strict: bytes that no writer of the
format leaves are refused. Reading what was written gives the fields back, field by field, line by
line and for a whole report.
-/

namespace Fixtures.Csv

/-- The kinds of bytes that the format tells apart. -/
inductive Kind where
  | comma
  | quote
  | lineFeed
  | carriageReturn
  | text
  deriving DecidableEq, Repr

/-- The kind of a byte. -/
def kind (b : UInt8) : Kind :=
  if b = 0x2C then .comma
  else if b = 0x22 then .quote
  else if b = 0x0A then .lineFeed
  else if b = 0x0D then .carriageReturn
  else .text

/-- Where the reader is in a field. -/
inductive Mode where
  /-- Before its first byte. -/
  | start
  /-- In a field without quotes. -/
  | plain
  /-- Between the quotes. -/
  | quoted
  /-- Behind a quote that ends the field, or is the first of two. -/
  | closed
  deriving DecidableEq, Repr

/-- What was read so far. -/
structure Reader where
  /-- The place in the current field. -/
  mode : Mode := .start
  /-- The bytes of the current field. -/
  field : Bytes := []
  /-- The finished fields of the current record. -/
  fields : List Bytes := []
  /-- The finished records. -/
  records : List (List Bytes) := []
  deriving DecidableEq, Repr

namespace Reader

/-- One more byte of the current field. -/
def push (reader : Reader) (mode : Mode) (b : UInt8) : Reader :=
  { reader with mode := mode, field := reader.field ++ [b] }

/-- The end of a field. -/
def endField (reader : Reader) : Reader :=
  { reader with mode := .start, field := [], fields := reader.fields ++ [reader.field] }

/-- The end of a record. -/
def endRecord (reader : Reader) : Reader :=
  ⟨.start, [], [], reader.records ++ [reader.fields ++ [reader.field]]⟩

/-- Reads one byte. -/
def step (reader : Reader) (b : UInt8) : Option Reader :=
  match reader.mode, kind b with
  | .quoted, .quote => some { reader with mode := .closed }
  | .quoted, _ => some (reader.push .quoted b)
  | _, .comma => some reader.endField
  | _, .lineFeed => some reader.endRecord
  | .start, .quote => some { reader with mode := .quoted }
  | .closed, .quote => some (reader.push .quoted b)
  | .start, .text => some (reader.push .plain b)
  | .plain, .text => some (reader.push .plain b)
  | _, _ => none

/-- Reads bytes one after another. -/
def run (reader : Reader) (bytes : Bytes) : Option Reader := bytes.foldlM step reader

/-- The records at the end. The last one may lack its line feed, but no quote may be open. -/
def finish (reader : Reader) : Option (List (List Bytes)) :=
  match reader.mode with
  | .quoted => none
  | .start => some (if reader.fields = [] then reader.records else reader.endRecord.records)
  | _ => some reader.endRecord.records

end Reader

/-- The records of a byte string, if it is well formed. -/
def read (bytes : Bytes) : Option (List (List Bytes)) := (Reader.run {} bytes).bind Reader.finish

namespace Reader

/-- Reading one part after another. -/
theorem run_append (reader : Reader) (first second : Bytes) :
    reader.run (first ++ second) = (reader.run first).bind fun reader => reader.run second :=
  List.foldlM_append

/-- Reading a first byte. -/
theorem run_cons (reader : Reader) (b : UInt8) (rest : Bytes) :
    reader.run (b :: rest) = (reader.step b).bind fun reader => reader.run rest :=
  List.foldlM_cons

/-- Reading a single byte. -/
theorem run_singleton (reader : Reader) (b : UInt8) : reader.run [b] = reader.step b := by
  rw [run_cons]
  cases reader.step b <;> rfl

variable {fields : List Bytes} {records : List (List Bytes)}

/-- Between quotes every byte but a quote is taken as it is. -/
theorem run_quoted (field : Bytes) {bytes : Bytes} (h : ∀ b ∈ bytes, kind b ≠ .quote) :
    run ⟨.quoted, field, fields, records⟩ bytes =
      some ⟨.quoted, field ++ bytes, fields, records⟩ := by
  induction bytes generalizing field with
  | nil => rw [List.append_nil]; rfl
  | cons b rest ih =>
    have hstep : step ⟨.quoted, field, fields, records⟩ b =
        some ⟨.quoted, field ++ [b], fields, records⟩ := by
      cases hkind : kind b with
      | quote => exact absurd hkind (h b List.mem_cons_self)
      | _ =>
        simp only [step, hkind]
        rfl
    rw [run_cons, hstep, Option.bind_some, ih _ fun b hb => h b (List.mem_cons_of_mem _ hb),
      List.append_assoc, List.singleton_append]

/-- In a field without quotes every byte of text is taken as it is. -/
theorem run_plain (field : Bytes) {bytes : Bytes} (h : ∀ b ∈ bytes, kind b = .text) :
    run ⟨.plain, field, fields, records⟩ bytes =
      some ⟨.plain, field ++ bytes, fields, records⟩ := by
  induction bytes generalizing field with
  | nil => rw [List.append_nil]; rfl
  | cons b rest ih =>
    have hstep : step ⟨.plain, field, fields, records⟩ b =
        some ⟨.plain, field ++ [b], fields, records⟩ := by
      simp only [step, h b List.mem_cons_self]
      rfl
    rw [run_cons, hstep, Option.bind_some, ih _ fun b hb => h b (List.mem_cons_of_mem _ hb),
      List.append_assoc, List.singleton_append]

/-- A field without quotes, from its start. -/
theorem run_start {bytes : Bytes} (h : ∀ b ∈ bytes, kind b = .text) :
    ∃ mode, mode ≠ .quoted ∧ run ⟨.start, [], fields, records⟩ bytes =
      some ⟨mode, bytes, fields, records⟩ := by
  cases bytes with
  | nil => exact ⟨.start, by decide, rfl⟩
  | cons b rest =>
    refine ⟨.plain, by decide, ?_⟩
    have hstep : step ⟨.start, [], fields, records⟩ b = some ⟨.plain, [b], fields, records⟩ := by
      simp only [step, h b List.mem_cons_self]
      rfl
    rw [run_cons, hstep, Option.bind_some,
      run_plain [b] fun b hb => h b (List.mem_cons_of_mem _ hb), List.singleton_append]

/-- A comma ends a field that is not between quotes. -/
theorem step_comma {mode : Mode} (h : mode ≠ .quoted) (field : Bytes) :
    step ⟨mode, field, fields, records⟩ 0x2C = some ⟨.start, [], fields ++ [field], records⟩ := by
  cases mode with
  | quoted => exact absurd rfl h
  | _ => rfl

/-- A line feed ends a record outside of quotes. -/
theorem step_lineFeed {mode : Mode} (h : mode ≠ .quoted) (field : Bytes) :
    step ⟨mode, field, fields, records⟩ 0x0A =
      some ⟨.start, [], [], records ++ [fields ++ [field]]⟩ := by
  cases mode with
  | quoted => exact absurd rfl h
  | _ => rfl

end Reader

/-- No byte of a character other than a quote is a quote. -/
theorem kind_ne_quote {c : Char} (hc : c ≠ '"') {b : UInt8} (hb : b ∈ String.utf8EncodeChar c) :
    kind b ≠ .quote := by
  have hquote : b = 0x22 ↔ c = '"' := Utf8.byte_eq_iff hb '"' (by decide)
  intro hkind
  unfold kind at hkind
  split at hkind
  · cases hkind
  · split at hkind
    · next h => exact hc (hquote.mp h)
    · split at hkind
      · cases hkind
      · split at hkind <;> cases hkind

/-- The bytes of a field that needs no quotes are text. -/
theorem kind_eq_text {field : List Char} (h : Report.needsQuotes field = false) {b : UInt8}
    (hb : b ∈ field.flatMap String.utf8EncodeChar) : kind b = .text := by
  obtain ⟨c, hc, hb⟩ := List.mem_flatMap.mp hb
  have hplain := List.any_eq_false.mp h c hc
  simp only [Bool.or_eq_true, beq_iff_eq, not_or] at hplain
  obtain ⟨⟨⟨hcomma, hquote⟩, hline⟩, hreturn⟩ := hplain
  have hcomma' : b = 0x2C ↔ c = ',' := Utf8.byte_eq_iff hb ',' (by decide)
  have hquote' : b = 0x22 ↔ c = '"' := Utf8.byte_eq_iff hb '"' (by decide)
  have hline' : b = 0x0A ↔ c = '\n' := Utf8.byte_eq_iff hb '\n' (by decide)
  have hreturn' : b = 0x0D ↔ c = '\r' := Utf8.byte_eq_iff hb '\r' (by decide)
  rw [kind, if_neg fun h => hcomma (hcomma'.mp h), if_neg fun h => hquote (hquote'.mp h),
    if_neg fun h => hline (hline'.mp h), if_neg fun h => hreturn (hreturn'.mp h)]

namespace Reader

variable {fields : List Bytes} {records : List (List Bytes)}

/-- Characters with their quotes doubled, between quotes. -/
theorem run_doubled (field : Bytes) (chars : List Char) :
    run ⟨.quoted, field, fields, records⟩ ((Report.doubled chars).flatMap String.utf8EncodeChar) =
      some ⟨.quoted, field ++ chars.flatMap String.utf8EncodeChar, fields, records⟩ := by
  induction chars generalizing field with
  | nil =>
    simp only [Report.doubled, List.flatMap_nil, List.append_nil]
    rfl
  | cons c rest ih =>
    have hsplit : Report.doubled (c :: rest) =
        (if c = '"' then ['"', '"'] else [c]) ++ Report.doubled rest := List.flatMap_cons
    have hfirst : run ⟨.quoted, field, fields, records⟩
        ((if c = '"' then ['"', '"'] else [c]).flatMap String.utf8EncodeChar) =
        some ⟨.quoted, field ++ String.utf8EncodeChar c, fields, records⟩ := by
      split
      · next h =>
        subst h
        rfl
      · next h =>
        rw [List.flatMap_singleton]
        exact run_quoted field fun b hb => kind_ne_quote h hb
    rw [hsplit, List.flatMap_append, run_append, hfirst, Option.bind_some, ih, List.flatMap_cons,
      List.append_assoc]

/-- A written field, from its start. -/
theorem run_writtenField (fields : List Bytes) (records : List (List Bytes)) (field : String) :
    ∃ mode, mode ≠ .quoted ∧ run ⟨.start, [], fields, records⟩
        ((Report.writtenField field.toList).flatMap String.utf8EncodeChar) =
      some ⟨mode, Utf8.encode field, fields, records⟩ := by
  cases hquotes : Report.needsQuotes field.toList with
  | false =>
    simp only [Report.writtenField, hquotes, Bool.false_eq_true, ite_false]
    exact run_start fun b hb => kind_eq_text hquotes hb
  | true =>
    refine ⟨.closed, by decide, ?_⟩
    have hopen : step ⟨.start, [], fields, records⟩ 0x22 =
        some ⟨.quoted, [], fields, records⟩ := rfl
    have hquote : String.utf8EncodeChar '"' = [0x22] := rfl
    simp only [Report.writtenField, hquotes, ite_true, List.flatMap_cons, List.flatMap_append,
      List.flatMap_nil, List.append_nil, List.cons_append, hquote, List.nil_append]
    rw [run_cons, hopen, Option.bind_some, run_append, run_doubled, Option.bind_some,
      run_singleton]
    rfl

/-- A line of one field. -/
theorem writtenLine_singleton (field : String) :
    Report.writtenLine [field] = Report.writtenField field.toList ++ ['\n'] := by
  simp [Report.writtenLine, List.intercalate]

/-- A line of several fields: the first field, a comma and the line of the others. -/
theorem writtenLine_cons_cons (field next : String) (rest : List String) :
    Report.writtenLine (field :: next :: rest) =
      Report.writtenField field.toList ++ ',' :: Report.writtenLine (next :: rest) := by
  simp [Report.writtenLine, List.intercalate]

/-- A written line. -/
theorem run_writtenLine (done : List Bytes) (field : String) (rest : List String) :
    run ⟨.start, [], done, records⟩
        ((Report.writtenLine (field :: rest)).flatMap String.utf8EncodeChar) =
      some ⟨.start, [], [], records ++ [done ++ (field :: rest).map Utf8.encode]⟩ := by
  have hcomma : String.utf8EncodeChar ',' = [0x2C] := rfl
  have hline : String.utf8EncodeChar '\n' = [0x0A] := rfl
  induction rest generalizing done field with
  | nil =>
    obtain ⟨mode, hmode, hfield⟩ := run_writtenField done records field
    rw [writtenLine_singleton, List.flatMap_append, List.flatMap_singleton, hline, run_append,
      hfield, Option.bind_some, run_singleton, step_lineFeed hmode]
    rfl
  | cons next rest ih =>
    obtain ⟨mode, hmode, hfield⟩ := run_writtenField done records field
    rw [writtenLine_cons_cons, List.flatMap_append, List.flatMap_cons, hcomma, run_append, hfield,
      Option.bind_some, List.singleton_append, run_cons, step_comma hmode, Option.bind_some, ih]
    simp

/-- Written lines one after another. -/
theorem run_writtenLines (rows : List (List String)) (h : ∀ row ∈ rows, row ≠ []) :
    run ⟨.start, [], [], records⟩
        ((rows.flatMap Report.writtenLine).flatMap String.utf8EncodeChar) =
      some ⟨.start, [], [], records ++ rows.map (·.map Utf8.encode)⟩ := by
  induction rows generalizing records with
  | nil => simp [run]
  | cons row rows ih =>
    obtain ⟨field, rest, rfl⟩ := List.exists_cons_of_ne_nil (h row List.mem_cons_self)
    rw [List.flatMap_cons, List.flatMap_append, run_append, run_writtenLine, Option.bind_some,
      ih fun row hrow => h row (List.mem_cons_of_mem _ hrow)]
    simp

end Reader

/-- Reading written lines gives the bytes of their fields. -/
theorem read_writtenLines (rows : List (List String)) (h : ∀ row ∈ rows, row ≠ []) :
    read (Utf8.encode (String.ofList (rows.flatMap Report.writtenLine))) =
      some (rows.map (·.map Utf8.encode)) := by
  rw [read, Utf8.encode, String.toList_ofList, Reader.run_writtenLines rows h]
  simp [Reader.finish]

/-- A quote is doubled between quotes, and refused in a field without them. -/
example : read (Utf8.encode "a,\"b\"\"\n\"\n") = some [[[0x61], [0x62, 0x22, 0x0A]]] ∧
    read (Utf8.encode "a\"\n") = none := by decide

end Fixtures.Csv
