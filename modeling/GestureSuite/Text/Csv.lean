import Mathlib.Tactic

/-! # Comma-separated values

The reader of RFC 4180 as an automaton that takes one character at a time: fields are separated by
commas, records end with CR LF, and a field in quotes may hold any character, a quote being written
twice. Text after a closing quote, a quote inside a bare field and a lone CR or LF outside quotes are
refused. The last record may lack its line break.

The writer side is `quoteField`, which quotes every field.
-/

namespace GestureSuite.Text

inductive CsvMode where
  | fieldStart
  | bare
  | quoted
  | quoteSeen
  | crSeen
deriving DecidableEq, Repr

/-- The field being read, the fields of its record in front of it, and the finished records. -/
structure CsvState where
  mode : CsvMode := .fieldStart
  field : List Char := []
  fields : List (List Char) := []
  records : List (List (List Char)) := []
deriving DecidableEq, Repr

namespace CsvState

/-- A character outside quotes, where a field may end. -/
def delimit (s : CsvState) (c : Char) : Option CsvState :=
  if c = ',' then some { s with mode := .fieldStart, field := [], fields := s.fields ++ [s.field] }
  else if c = '\r' then some { s with mode := .crSeen }
  else none

def step (s : CsvState) (c : Char) : Option CsvState :=
  match s.mode with
  | .quoted => some (if c = '"' then { s with mode := .quoteSeen } else { s with field := s.field ++ [c] })
  | .quoteSeen =>
    if c = '"' then some { s with mode := .quoted, field := s.field ++ [c] } else s.delimit c
  | .crSeen => if c = '\n' then some { records := s.records ++ [s.fields ++ [s.field]] } else none
  | .fieldStart | .bare =>
    if c = '"' then (if s.mode = .fieldStart then some { s with mode := .quoted } else none)
    else if c = ',' ∨ c = '\r' ∨ c = '\n' then s.delimit c
    else some { s with mode := .bare, field := s.field ++ [c] }

def read (s : CsvState) (text : List Char) : Option CsvState := text.foldlM step s

/-- The end of the text. -/
def finish (s : CsvState) : Option (List (List (List Char))) :=
  if s.mode = .fieldStart ∧ s.fields = [] then some s.records
  else if s.mode = .quoted ∨ s.mode = .crSeen then none
  else some (s.records ++ [s.fields ++ [s.field]])

@[simp] theorem read_nil (s : CsvState) : s.read [] = some s := rfl

theorem read_cons (s : CsvState) (c : Char) (rest : List Char) :
    s.read (c :: rest) = (s.step c).bind fun next => next.read rest := rfl

theorem read_append {s next : CsvState} {front : List Char} (reads : s.read front = some next) (rest : List Char) :
    s.read (front ++ rest) = next.read rest := by
  rw [read] at reads ⊢
  rw [List.foldlM_append, reads]
  rfl

end CsvState

def csvParse (text : List Char) : Option (List (List (List Char))) :=
  (CsvState.read {} text).bind CsvState.finish

/-- Every quote twice. -/
def doubleQuotes (text : List Char) : List Char := text.flatMap fun c => if c = '"' then ['"', '"'] else [c]

def quoteField (text : List Char) : List Char := '"' :: doubleQuotes text ++ ['"']

def csvLine (fields : List (List Char)) : List Char := [','].intercalate (fields.map quoteField) ++ ['\r', '\n']

namespace CsvState

/-- Inside quotes the reader undoes the doubling. -/
theorem read_doubleQuotes (field : List Char) (fields : List (List Char)) (records : List (List (List Char)))
    (text : List Char) :
    read ⟨.quoted, field, fields, records⟩ (doubleQuotes text) = some ⟨.quoted, field ++ text, fields, records⟩ := by
  induction text generalizing field with
  | nil => simp [doubleQuotes]
  | cons c rest ih =>
    have peel : doubleQuotes (c :: rest) = (if c = '"' then ['"', '"'] else [c]) ++ doubleQuotes rest := rfl
    rw [peel]
    have front : read ⟨.quoted, field, fields, records⟩ (if c = '"' then ['"', '"'] else [c]) =
        some ⟨.quoted, field ++ [c], fields, records⟩ := by
      split
      · next quote => subst quote; rfl
      · next other => simp [read_cons, step, other]
    rw [read_append front, ih, List.append_assoc]
    rfl

/-- A quoted field is read as the text it was made of. -/
theorem read_quoteField (fields : List (List Char)) (records : List (List (List Char))) (text : List Char) :
    read ⟨.fieldStart, [], fields, records⟩ (quoteField text) = some ⟨.quoteSeen, text, fields, records⟩ := by
  have opened : read ⟨.fieldStart, [], fields, records⟩ ['"'] = some ⟨.quoted, [], fields, records⟩ := rfl
  have body := read_doubleQuotes [] fields records text
  rw [List.nil_append] at body
  change read _ (['"'] ++ (doubleQuotes text ++ ['"'])) = _
  rw [read_append opened, read_append body]
  rfl

/-- A line of quoted fields is read as one more record. -/
theorem read_csvLine (before : List (List Char)) (records : List (List (List Char))) {fields : List (List Char)}
    (nonempty : fields ≠ []) :
    read ⟨.fieldStart, [], before, records⟩ (csvLine fields) =
      some ⟨.fieldStart, [], [], records ++ [before ++ fields]⟩ := by
  induction fields generalizing before with
  | nil => exact absurd rfl nonempty
  | cons first rest ih =>
    have opened := read_quoteField before records first
    cases rest with
    | nil =>
      have lineEnds : csvLine [first] = quoteField first ++ ['\r', '\n'] := by simp [csvLine]
      rw [lineEnds, read_append opened]
      rfl
    | cons second rest =>
      have goesOn : csvLine (first :: second :: rest) = quoteField first ++ ([','] ++ csvLine (second :: rest)) := by
        simp [csvLine]
      have comma : read ⟨.quoteSeen, first, before, records⟩ [','] =
          some ⟨.fieldStart, [], before ++ [first], records⟩ := rfl
      rw [goesOn, read_append opened, read_append comma, ih _ (List.cons_ne_nil _ _)]
      simp

/-- Lines of quoted fields are read as their records, in order. -/
theorem read_csvLines (records : List (List (List Char))) {rows : List (List (List Char))} (nonempty : [] ∉ rows) :
    read ⟨.fieldStart, [], [], records⟩ (rows.flatMap csvLine) = some ⟨.fieldStart, [], [], records ++ rows⟩ := by
  induction rows generalizing records with
  | nil => simp
  | cons row rest ih =>
    obtain ⟨rowHas, restHave⟩ := not_or.mp (mt List.mem_cons.mpr nonempty)
    rw [List.flatMap_cons, read_append (read_csvLine [] records (Ne.symm rowHas)), ih _ restHave]
    simp

end CsvState

/-- A file of a first line that reads as `header` and then lines of quoted fields parses into the header
and the rows. -/
theorem csvParse_headed {headerLine : List Char} {header : List (List Char)} {rows : List (List (List Char))}
    (headed : CsvState.read {} headerLine = some { records := [header] }) (nonempty : [] ∉ rows) :
    csvParse (headerLine ++ rows.flatMap csvLine) = some (header :: rows) := by
  rw [csvParse]
  rw [CsvState.read_append headed, CsvState.read_csvLines [header] nonempty]
  rfl

example : csvParse "a,b\r\n\"x,\"\"y\r\n\",z\r\n".toList =
    some [["a".toList, "b".toList], ["x,\"y\r\n".toList, "z".toList]] := by decide

end GestureSuite.Text
