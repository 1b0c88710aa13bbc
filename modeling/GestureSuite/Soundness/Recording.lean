import Mathlib
import GestureSuite.Model.Fitter.Record
import GestureSuite.Model.Recorder

/-! # From the recorder's calls to the rows the calibration script reads

The recorder quotes every field, so whatever the strings are, the CSV automaton finds the fields again;
and the script finds the samples and the markers among the records, in the order of the calls.
-/

namespace GestureSuite.Recorder

open Text Fitter

private theorem doubleQuotes_cons_of_ne {c : Char} (other : c ≠ '"') (text : List Char) :
    doubleQuotes (c :: text) = c :: doubleQuotes text := by
  simp [doubleQuotes, other]

private theorem ofNat_ne_quote {n : ℕ} (other : n ≠ 0x22) : Char.ofNat n ≠ '"' := by
  intro same
  rw [Char.ofNat] at same
  split at same
  · exact other (congrArg Char.toNat same)
  · exact absurd (congrArg Char.toNat same) (by decide)

private theorem surrogatePair_ne_quote (high low : UInt16) : surrogatePair high low ≠ '"' := ofNat_ne_quote (by omega)

/-- Every quote among the units twice. -/
private def doubleUnits (value : NetString) : NetString :=
  value.flatMap fun unit => if unit = quoteUnit then [quoteUnit, quoteUnit] else [unit]

/-- Doubling the quotes among the units doubles them in the decoded text. -/
private theorem utf16DecodeFrom_doubleUnits (pending : Option UInt16) (value : NetString) :
    utf16DecodeFrom pending (doubleUnits value) = doubleQuotes (utf16DecodeFrom pending value) := by
  have replaced : replacementChar ≠ '"' := by decide
  induction value generalizing pending with
  | nil => cases pending <;> rfl
  | cons unit rest ih =>
    by_cases quote : unit = quoteUnit
    · subst quote
      have doubled : doubleUnits (quoteUnit :: rest) = quoteUnit :: quoteUnit :: doubleUnits rest := rfl
      have plain : isSurrogate quoteUnit = false := by decide
      rw [doubled, utf16DecodeFrom_cons_of_not_isSurrogate plain, utf16DecodeFrom_cons_of_not_isSurrogate plain,
        utf16DecodeFrom_cons_of_not_isSurrogate plain, ih]
      cases pending with
      | none => rfl
      | some high =>
        change _ = doubleQuotes (replacementChar :: '"' :: utf16DecodeFrom none rest)
        rw [doubleQuotes_cons_of_ne replaced]
        rfl
    · have kept : doubleUnits (unit :: rest) = unit :: doubleUnits rest := by simp [doubleUnits, quote]
      have other : Char.ofNat unit.toNat ≠ '"' := ofNat_ne_quote fun same => quote (UInt16.toNat_inj.mp same)
      rw [kept]
      cases pending with
      | none =>
        simp only [utf16DecodeFrom]
        split_ifs
        · exact ih (some unit)
        · rw [ih, doubleQuotes_cons_of_ne replaced]
        · rw [ih, doubleQuotes_cons_of_ne other]
      | some high =>
        simp only [utf16DecodeFrom]
        split_ifs
        · rw [ih, doubleQuotes_cons_of_ne replaced]
        · rw [ih, doubleQuotes_cons_of_ne (surrogatePair_ne_quote high unit)]
        · rw [ih, doubleQuotes_cons_of_ne replaced, doubleQuotes_cons_of_ne other]

/-- A quoted value decodes to the quoted text, whatever follows it. -/
private theorem utf16Decode_csv (value rest : NetString) :
    utf16Decode (csv value ++ rest) = quoteField (utf16Decode value) ++ utf16Decode rest := by
  have plain : isSurrogate quoteUnit = false := by decide
  have shape : csv value ++ rest = quoteUnit :: (doubleUnits value ++ quoteUnit :: rest) := by
    simp [csv, doubleUnits]
  rw [utf16Decode]
  rw [shape, utf16DecodeFrom_cons_of_not_isSurrogate plain, utf16DecodeFrom_append_cons plain,
    utf16DecodeFrom_doubleUnits, quoteField, List.append_assoc]
  rfl

/-- A line break separates what it ends from what follows. -/
private theorem utf16Decode_lineBreak (front rest : NetString) :
    utf16Decode (front ++ utf16Encode ['\r', '\n'] ++ rest) =
      utf16Decode front ++ ['\r', '\n'] ++ utf16Decode rest := by
  have units : utf16Encode ['\r', '\n'] = [0x0D, 0x0A] := by decide
  rw [utf16Decode]
  rw [units, List.append_assoc, List.cons_append, utf16DecodeFrom_append_cons (by decide),
    List.singleton_append, utf16DecodeFrom_cons_of_not_isSurrogate (by decide), List.append_assoc]
  rfl

/-- A line of the recorder decodes to the CSV line of the decoded values. -/
private theorem utf16Decode_line {cells : List NetString} (nonempty : cells ≠ []) (rest : NetString) :
    utf16Decode (joinCells cells ++ utf16Encode ['\r', '\n'] ++ rest) =
      csvLine (cells.map utf16Decode) ++ utf16Decode rest := by
  induction cells with
  | nil => exact absurd rfl nonempty
  | cons first cells ih =>
    cases cells with
    | nil =>
      have single : joinCells [first] = csv first := by simp [joinCells]
      rw [single, List.append_assoc, utf16Decode_csv, ← List.nil_append (utf16Encode _), utf16Decode_lineBreak]
      simp [csvLine, utf16Decode, utf16DecodeFrom]
    | cons second cells =>
      have plain : isSurrogate commaUnit = false := by decide
      have joined : joinCells (first :: second :: cells) = csv first ++ commaUnit :: joinCells (second :: cells) := by
        simp [joinCells]
      have comma : utf16Decode (commaUnit :: (joinCells (second :: cells) ++ utf16Encode ['\r', '\n'] ++ rest)) =
          ',' :: utf16Decode (joinCells (second :: cells) ++ utf16Encode ['\r', '\n'] ++ rest) :=
        utf16DecodeFrom_cons_of_not_isSurrogate plain none _
      rw [joined, List.append_assoc, List.append_assoc, utf16Decode_csv, List.cons_append, ← List.append_assoc, comma,
        ih (List.cons_ne_nil _ _)]
      simp [csvLine]

/-- The events of a session with the times they are stamped with, in the order of the calls. -/
def Session.events (session : Session) : List (ℤ × Event) :=
  (session.start.timestamp, { eventType := .sessionStart, note := session.sessionLabel }) ::
    (session.calls.map fun call => (call.1.timestamp, call.2.event)) ++
      [(session.stop.timestamp, { eventType := .sessionStop })]

/-- The strings of a record: those given to the recorder, as far as UTF-8 can carry them. -/
def recordFields (formats : Formats) (sequence : ℤ) (event : ℤ × Event) : List (List Char) :=
  (event.2.cells formats event.1 sequence).map utf16Decode

/-- The value of a 32-bit counter that has been incremented so often from zero. -/
def sequenceAt (count : ℕ) : ℤ := (count : ℤ).bmod (2 ^ 32)

theorem sequenceAt_of_lt {count : ℕ} (bound : count < 2 ^ 31) : sequenceAt count = count := by
  unfold sequenceAt
  exact Int.bmod_eq_of_le (by omega) (by omega)

/-- The line of an event, with its end. -/
def eventLine (formats : Formats) (sequence : ℤ) (event : ℤ × Event) : NetString :=
  joinCells (event.2.cells formats event.1 sequence) ++ utf16Encode ['\r', '\n']

/-- A file is open and holds the text, and the counter stands at a value. -/
private structure Recording (s : State) (text : NetString) (sequence : ℤ) (closed : List NetString) : Prop where
  opened : ∃ writer, s.writer = some writer ∧ writer.content = text
  counted : s.sequence = sequence
  files : s.closedFiles = closed

private theorem content_flush (w : Writer) : w.flush.content = w.content := List.append_nil _

private theorem content_writeLine (w : Writer) (line : NetString) :
    (w.writeLine line).content = w.content ++ (line ++ utf16Encode ['\r', '\n']) := by
  simp only [Writer.content, Writer.writeLine, List.append_assoc]

private theorem writeEventInternal_recording (formats : Formats) {s : State} {text : NetString} {sequence : ℤ}
    {closed : List NetString} (recording : Recording s text sequence closed) (now : ClockReads) (e : Event) :
    Recording (writeEventInternal formats now e s)
      (text ++ eventLine formats ((sequence + 1).bmod (2 ^ 32)) (now.timestamp, e)) ((sequence + 1).bmod (2 ^ 32))
      closed := by
  obtain ⟨⟨writer, opened, holds⟩, rfl, files⟩ := recording
  rw [writeEventInternal]
  rw [opened]
  dsimp only
  generalize (s.sequence + 1).bmod (2 ^ 32) = next
  have written : (writer.writeLine (joinCells (e.cells formats now.timestamp next))).content =
      text ++ eventLine formats next (now.timestamp, e) := by
    rw [content_writeLine, holds, eventLine]
  split
  · exact ⟨⟨_, rfl, (content_flush _).trans written⟩, rfl, files⟩
  · exact ⟨⟨_, rfl, written⟩, rfl, files⟩

theorem sequenceAt_succ (count : ℕ) : (sequenceAt count + 1).bmod (2 ^ 32) = sequenceAt (count + 1) := by
  unfold sequenceAt
  rw [Nat.cast_succ]
  exact Int.bmod_add_bmod

private theorem calls_recording (formats : Formats) (calls : List (ClockReads × LogCall)) {s : State} {text : NetString}
    {count : ℕ} {closed : List NetString} (recording : Recording s text (sequenceAt count) closed) :
    Recording (calls.foldl (log formats) s)
      (text ++ ((calls.map fun call => (call.1.timestamp, call.2.event)).mapIdx fun k event =>
        eventLine formats (sequenceAt (count + 1 + k)) event).flatten) (sequenceAt (count + calls.length)) closed := by
  induction calls generalizing s text count with
  | nil => simpa using recording
  | cons call rest ih =>
    have stepped := writeEventInternal_recording formats recording call.1 call.2.event
    rw [sequenceAt_succ] at stepped
    have run := ih stepped
    have shifted : (fun k event => eventLine formats (sequenceAt (count + 1 + (k + 1))) event) =
        fun k event => eventLine formats (sequenceAt (count + 1 + 1 + k)) event := by
      funext k event
      rw [show count + 1 + (k + 1) = count + 1 + 1 + k by omega]
    have total : count + (call :: rest).length = count + 1 + rest.length := by
      rw [List.length_cons]
      omega
    rw [List.foldl_cons, List.map_cons, List.mapIdx_cons, List.flatten_cons, total, shifted, ← List.append_assoc]
    exact run

/-- The text of a session's file. -/
def Session.file (formats : Formats) (session : Session) : NetString :=
  utf16Encode headerLine ++ utf16Encode ['\r', '\n'] ++
    (session.events.mapIdx fun k event => eventLine formats (sequenceAt (k + 1)) event).flatten

private theorem startSession_recording (formats : Formats) (opened : ℤ) (now : ClockReads) (sessionLabel : NetString)
    (s : State) :
    Recording (startSession formats opened now sessionLabel s)
      (utf16Encode headerLine ++ utf16Encode ['\r', '\n'] ++ eventLine formats (sequenceAt 1)
        (now.timestamp, { eventType := .sessionStart, note := sessionLabel }))
      (sequenceAt 1) (stopSessionInternal s).closedFiles := by
  rw [← sequenceAt_succ 0]
  have fresh : Recording { stopSessionInternal s with
      writer := some (Writer.writeLine {} (utf16Encode headerLine)).flush, sequence := 0, eventsSinceFlush := 0,
      lastFlushUtc := opened } (utf16Encode headerLine ++ utf16Encode ['\r', '\n']) (sequenceAt 0)
      (stopSessionInternal s).closedFiles := ⟨⟨_, rfl, rfl⟩, rfl, rfl⟩
  exact writeEventInternal_recording formats fresh now { eventType := .sessionStart, note := sessionLabel }

private theorem stopSessionInternal_closedFiles {s : State} {text : NetString} {sequence : ℤ} {closed : List NetString}
    (recording : Recording s text sequence closed) : (stopSessionInternal s).closedFiles = closed ++ [text] := by
  obtain ⟨⟨writer, isOpen, holds⟩, -, files⟩ := recording
  simp only [stopSessionInternal, isOpen, files, Option.map_some, Option.toList_some, ← holds]
  rfl

/-- In front of the closing of its file, everything of a session has been written. -/
private theorem session_recording (formats : Formats) (session : Session) (s : State) :
    Recording (writeEventInternal formats session.stop { eventType := .sessionStop }
      (session.calls.foldl (log formats) (startSession formats session.opened session.start session.sessionLabel s)))
      (session.file formats) (sequenceAt (1 + session.calls.length + 1)) (stopSessionInternal s).closedFiles := by
  have started := startSession_recording formats session.opened session.start session.sessionLabel s
  have logged := calls_recording formats session.calls started
  have stopped := writeEventInternal_recording formats logged session.stop { eventType := .sessionStop }
  rw [sequenceAt_succ] at stopped
  have shifted : (fun k event => eventLine formats (sequenceAt (k + 1 + 1)) event) =
      fun k event => eventLine formats (sequenceAt (1 + 1 + k)) event := by
    funext k event
    rw [show k + 1 + 1 = 1 + 1 + k by omega]
  have last : 0 + (session.calls.length + 1) + 1 = 1 + session.calls.length + 1 := by omega
  have whole : session.file formats =
      utf16Encode headerLine ++ utf16Encode ['\r', '\n'] ++ eventLine formats (sequenceAt 1)
          (session.start.timestamp, { eventType := .sessionStart, note := session.sessionLabel }) ++
        ((session.calls.map fun call => (call.1.timestamp, call.2.event)).mapIdx fun k event =>
          eventLine formats (sequenceAt (1 + 1 + k)) event).flatten ++
        eventLine formats (sequenceAt (1 + session.calls.length + 1))
          (session.stop.timestamp, { eventType := .sessionStop }) := by
    rw [Session.file, Session.events, List.mapIdx_append, List.mapIdx_cons, shifted, List.mapIdx_singleton,
      List.length_cons, List.length_map, last, List.flatten_append, List.flatten_cons, List.flatten_singleton]
    simp only [List.append_assoc, zero_add]
  rw [whole]
  exact stopped

theorem session_content (formats : Formats) (session : Session) (s : State) :
    ∃ writer, (writeEventInternal formats session.stop { eventType := .sessionStop }
      (session.calls.foldl (log formats)
        (startSession formats session.opened session.start session.sessionLabel s))).writer = some writer ∧
      writer.content = session.file formats :=
  (session_recording formats session s).opened

/-- A session closes the file that was open, if any, and leaves one more file. -/
private theorem record_closedFiles (formats : Formats) (session : Session) (s : State) :
    (session.record formats s).closedFiles = (stopSessionInternal s).closedFiles ++ [session.file formats] :=
  stopSessionInternal_closedFiles (session_recording formats session s)

def columnNames : List (List Char) :=
  ["utc_time".toList, "seq".toList, "event".toList, "raw_payload".toList, "ax".toList, "ay".toList, "az".toList,
    "gx".toList, "gy".toList, "gz".toList, "temp".toList, "roll".toList, "pitch".toList, "yaw".toList, "note".toList]

private theorem read_headerLine :
    CsvState.read {} (headerLine ++ ['\r', '\n']) = some { records := [columnNames] } := by
  decide

private theorem utf16Decode_lines {rows : List (List NetString)} (nonempty : [] ∉ rows) :
    utf16Decode (rows.flatMap fun cells => joinCells cells ++ utf16Encode ['\r', '\n']) =
      (rows.map (List.map utf16Decode)).flatMap csvLine := by
  induction rows with
  | nil => rfl
  | cons cells rest ih =>
    obtain ⟨cellsHave, restHave⟩ := not_or.mp (mt List.mem_cons.mpr nonempty)
    rw [List.flatMap_cons, List.map_cons, List.flatMap_cons, utf16Decode_line (Ne.symm cellsHave), ih restHave]

private theorem map_mapIdx {α β γ : Type*} (f : ℕ → α → β) (g : β → γ) (l : List α) :
    (l.mapIdx f).map g = l.mapIdx fun k a => g (f k a) := by
  apply List.ext_getElem?
  simp [Function.comp_def]

/-- Whatever strings were logged, the file of a session parses into its header and one record for every
event. -/
theorem csvParse_file (formats : Formats) (session : Session) :
    csvParse (utf16Decode (session.file formats)) = some (columnNames :: session.events.mapIdx fun k event =>
      recordFields formats (sequenceAt (k + 1)) event) := by
  let rows := session.events.mapIdx fun k event => event.2.cells formats event.1 (sequenceAt (k + 1))
  have lines : (session.events.mapIdx fun k event => eventLine formats (sequenceAt (k + 1)) event).flatten =
      rows.flatMap fun cells => joinCells cells ++ utf16Encode ['\r', '\n'] := by
    rw [List.flatMap, map_mapIdx]
    rfl
  have records : (session.events.mapIdx fun k event => recordFields formats (sequenceAt (k + 1)) event) =
      rows.map (List.map utf16Decode) := by
    rw [map_mapIdx]
    rfl
  have nonempty : [] ∉ rows := by
    rw [List.mem_mapIdx]
    rintro ⟨k, bound, same⟩
    exact List.cons_ne_nil _ _ same
  have fieldsToo : [] ∉ rows.map (List.map utf16Decode) := by
    simpa using nonempty
  rw [records, Session.file, lines, utf16Decode_lineBreak, utf16Decode_utf16Encode, utf16Decode_lines nonempty]
  exact csvParse_headed read_headerLine fieldsToo

/-- What the script makes of an angle: rounded to millionths, and one zero only. -/
def Formats.recorded (formats : Formats) : Double → Double
  | .finite negative magnitude => orZero (.finite negative (fixedValue 6 (formats.millionths magnitude)))
  | value => value

def doubleOfInt (value : ℤ) : Double := .finite (decide (value < 0)) value.natAbs

/-- The row for a call, stamped with a time: there is one for a sample whose angles and rates are all known. -/
def LogCall.imuRow (formats : Formats) (t : ℤ) : LogCall → Option (ImuRow Double)
  | .logImu _ _ _ _ (some gx) (some gy) (some gz) _ (some roll) (some pitch) (some yaw) _ =>
    some { t, roll := formats.recorded roll, pitch := formats.recorded pitch, yaw := formats.recorded yaw,
           gx := doubleOfInt gx, gy := doubleOfInt gy, gz := doubleOfInt gz }
  | _ => none

def LogCall.markerRow (t : ℤ) : LogCall → Option MarkerRow
  | .logMarker note => some { t, note := strip (utf16Decode note) }
  | _ => none

private theorem strip_eq_self {text : List Char} (solid : ∀ c ∈ text, isSpace c = false) : strip text = text := by
  have front : text.dropWhile isSpace = text := by
    cases text with
    | nil => rfl
    | cons c rest => exact List.dropWhile_cons_of_neg (by simp [solid c List.mem_cons_self])
  rw [strip, front, List.rdropWhile_eq_self_iff]
  intro nonempty
  simp [solid _ (List.getLast_mem nonempty)]

private theorem not_isSpace_of_isDigit {c : Char} (digit : c.isDigit = true) : isSpace c = false := by
  have range := toNat_of_isDigit digit
  simp only [isSpace, Bool.or_eq_false_iff, Bool.and_eq_false_iff, decide_eq_false_iff_not]
  omega

private theorem safeFloat_of_solid {text : List Char} {value : Double} (solid : ∀ c ∈ text, isSpace c = false)
    (nonempty : text ≠ []) (parsed : floatParse text = some value) : safeFloat (some text) = some value := by
  simp [safeFloat, strip_eq_self solid, nonempty, parsed]

/-- An integer is read back as it was given. -/
private theorem safeFloat_toTextInt (value : Option ℤ) :
    safeFloat (some (toTextInt value)) = value.map doubleOfInt := by
  cases value with
  | none => rfl
  | some z =>
    refine safeFloat_of_solid (fun c member => ?_) (printInt_ne_nil z) (floatParse_printInt z)
    rcases mem_printInt member with rfl | digit
    · decide
    · exact not_isSpace_of_isDigit digit

private theorem printFixed_solid {places : ℕ} {negative : Bool} {scaled : ℕ} {c : Char}
    (member : c ∈ printFixed places negative scaled) : isSpace c = false := by
  rcases List.mem_append.mp member with sign | body
  · cases negative
    · exact absurd sign List.not_mem_nil
    · rw [List.mem_singleton.mp sign]
      decide
  · rcases List.mem_append.mp body with whole | pointed
    · exact not_isSpace_of_isDigit (isDigit_of_mem_toDigits_ten whole)
    · rcases List.mem_cons.mp pointed with rfl | fraction
      · decide
      · exact not_isSpace_of_isDigit (isDigit_of_mem_padDigits fraction)

private theorem safeFloat_nan : safeFloat (some "NaN".toList) = some .nan := by decide

private theorem safeFloat_infinity (negative : Bool) :
    safeFloat (some ((if negative then ['-'] else []) ++ "Infinity".toList)) = some (.infinity negative) := by
  revert negative
  decide

/-- An angle is read back as it was recorded. -/
private theorem safeFloat_toTextDouble (formats : Formats) (value : Option Double) :
    (safeFloat (some (toTextDouble formats value))).map orZero = value.map formats.recorded := by
  match value with
  | none => rfl
  | some .nan => exact congrArg (Option.map orZero) safeFloat_nan
  | some (.infinity negative) => exact congrArg (Option.map orZero) (safeFloat_infinity negative)
  | some (.finite negative magnitude) =>
    have nonempty : printFixed 6 negative (formats.millionths magnitude) ≠ [] := by simp [printFixed]
    have read := safeFloat_of_solid (fun c => printFixed_solid) nonempty
      (floatParse_printFixed (by decide) negative (formats.millionths magnitude))
    rw [toTextDouble, read]
    rfl

private theorem safeFloat_angle (formats : Formats) (value : Option Double) :
    (value = none ∧ safeFloat (some (toTextDouble formats value)) = none) ∨
      ∃ angle read, value = some angle ∧ safeFloat (some (toTextDouble formats value)) = some read ∧
        orZero read = formats.recorded angle := by
  have agree := safeFloat_toTextDouble formats value
  cases value with
  | none => exact .inl ⟨rfl, rfl⟩
  | some angle =>
    obtain ⟨read, found, zeroed⟩ := Option.map_eq_some_iff.mp agree
    exact .inr ⟨angle, read, rfl, found, zeroed⟩

private theorem orZero_doubleOfInt (value : ℤ) : orZero (doubleOfInt value) = doubleOfInt value := by
  simp only [doubleOfInt, orZero]
  split_ifs with zero
  · have : value = 0 := by simpa using zero
    subst this
    rfl
  · rfl

/-- The fields of a record, decoded one by one. -/
private theorem recordFields_eq (formats : Formats) (sequence ticks : ℤ) (e : Event) :
    recordFields formats sequence (ticks, e) =
      [formats.roundTrip ticks, printInt sequence, e.eventType.text, utf16Decode e.rawPayload, toTextInt e.ax,
        toTextInt e.ay, toTextInt e.az, toTextInt e.gx, toTextInt e.gy, toTextInt e.gz, toTextInt e.temp,
        toTextDouble formats e.roll, toTextDouble formats e.pitch, toTextDouble formats e.yaw, utf16Decode e.note] := by
  simp only [recordFields, Event.cells, List.map_cons, List.map_nil, utf16Decode_utf16Encode]

section Reading

variable {formats : Formats} {fromIsoformat : List Char → Option ℤ} {ticks t : ℤ}
  (rows : List (ImuRow Double) × List MarkerRow) (sequence : ℤ)

/-- What the loop body does with a record of the recorder, by the event's type. -/
private theorem readRow_recordFields (e : Event) (nonempty : formats.roundTrip ticks ≠ [])
    (accepted : parseIso8601 fromIsoformat (formats.roundTrip ticks) = some t) :
    readRow fromIsoformat columnNames rows (recordFields formats sequence (ticks, e)) =
      some (match e.eventType with
        | .mark => (rows.1, rows.2 ++ [{ t, note := strip (utf16Decode e.note) }])
        | .imu =>
          match safeFloat (some (toTextDouble formats e.roll)), safeFloat (some (toTextDouble formats e.pitch)),
            safeFloat (some (toTextDouble formats e.yaw)), safeFloat (some (toTextInt e.gx)),
            safeFloat (some (toTextInt e.gy)), safeFloat (some (toTextInt e.gz)) with
          | some roll, some pitch, some yaw, some gx, some gy, some gz =>
            (rows.1 ++ [{ t, roll := orZero roll, pitch := orZero pitch, yaw := orZero yaw,
                          gx := orZero gx, gy := orZero gy, gz := orZero gz }], rows.2)
          | _, _, _, _, _, _ => rows
        | _ => rows) := by
  have timed : (formats.roundTrip ticks).isEmpty = false := by simpa using nonempty
  rw [recordFields_eq]
  delta readRow
  change (if (formats.roundTrip ticks).isEmpty = true then some rows
    else Option.map _ (parseIso8601 fromIsoformat (formats.roundTrip ticks))) = _
  rw [timed, accepted, if_neg Bool.false_ne_true, Option.map_some]
  congr 1
  cases e.eventType <;> rfl

/-- A record of a logging call adds the call's sample or its marker. -/
private theorem readRow_call (call : LogCall) (nonempty : formats.roundTrip ticks ≠ [])
    (accepted : parseIso8601 fromIsoformat (formats.roundTrip ticks) = some t) :
    readRow fromIsoformat columnNames rows (recordFields formats sequence (ticks, call.event)) =
      some (rows.1 ++ (call.imuRow formats t).toList, rows.2 ++ (call.markerRow t).toList) := by
  rw [readRow_recordFields rows sequence call.event nonempty accepted]
  cases call with
  | logStatus payload => simp [LogCall.event, LogCall.imuRow, LogCall.markerRow]
  | logMarker note => simp [LogCall.event, LogCall.imuRow, LogCall.markerRow]
  | logImu payload ax ay az gx gy gz temp roll pitch yaw note =>
    simp only [LogCall.event, safeFloat_toTextInt, LogCall.markerRow, Option.toList_none, List.append_nil]
    -- the first value that is missing decides; the script then drops the row
    rcases safeFloat_angle formats roll with ⟨rfl, missing⟩ | ⟨roll, readRoll, rfl, found, rollRead⟩
    · simp [missing, LogCall.imuRow]
    rw [found]
    rcases safeFloat_angle formats pitch with ⟨rfl, missing⟩ | ⟨pitch, readPitch, rfl, found, pitchRead⟩
    · simp [missing, LogCall.imuRow]
    rw [found]
    rcases safeFloat_angle formats yaw with ⟨rfl, missing⟩ | ⟨yaw, readYaw, rfl, found, yawRead⟩
    · simp [missing, LogCall.imuRow]
    rw [found]
    cases gx with
    | none => simp [LogCall.imuRow]
    | some gx =>
      cases gy with
      | none => simp [LogCall.imuRow]
      | some gy =>
        cases gz with
        | none => simp [LogCall.imuRow]
        | some gz => simp [LogCall.imuRow, rollRead, pitchRead, yawRead, orZero_doubleOfInt]

end Reading

section Session

variable {formats : Formats} {fromIsoformat : List Char → Option ℤ} {stamp : ℤ → ℤ}

/-- The script can read the time of an event. -/
def Readable (formats : Formats) (fromIsoformat : List Char → Option ℤ) (stamp : ℤ → ℤ) (ticks : ℤ) : Prop :=
  formats.roundTrip ticks ≠ [] ∧ parseIso8601 fromIsoformat (formats.roundTrip ticks) = some (stamp ticks)

/-- The samples of a session, one for every call that has one, in the order of the calls. -/
def Session.imuRows (formats : Formats) (stamp : ℤ → ℤ) (session : Session) : List (ImuRow Double) :=
  session.calls.filterMap fun call => call.2.imuRow formats (stamp call.1.timestamp)

def Session.markerRows (stamp : ℤ → ℤ) (session : Session) : List MarkerRow :=
  session.calls.filterMap fun call => call.2.markerRow (stamp call.1.timestamp)

private theorem readRows_calls (calls : List (ClockReads × LogCall)) (sequence : ℕ → ℤ)
    (readable : ∀ call ∈ calls, Readable formats fromIsoformat stamp call.1.timestamp)
    (rows : List (ImuRow Double) × List MarkerRow) :
    ((calls.map fun call => (call.1.timestamp, call.2.event)).mapIdx fun k event =>
        recordFields formats (sequence k) event).foldlM (readRow fromIsoformat columnNames) rows =
      some (rows.1 ++ calls.filterMap (fun call => call.2.imuRow formats (stamp call.1.timestamp)),
        rows.2 ++ calls.filterMap (fun call => call.2.markerRow (stamp call.1.timestamp))) := by
  induction calls generalizing sequence rows with
  | nil => simp
  | cons call rest ih =>
    obtain ⟨nonempty, accepted⟩ := readable call List.mem_cons_self
    have later := ih (fun k => sequence (k + 1)) fun other member => readable other (List.mem_cons_of_mem call member)
    rw [List.map_cons, List.mapIdx_cons, List.foldlM_cons, readRow_call rows (sequence 0) call.2 nonempty accepted]
    apply (later _).trans
    simp only [List.filterMap_cons]
    cases call.2.imuRow formats (stamp call.1.timestamp) <;> cases call.2.markerRow (stamp call.1.timestamp) <;> simp

/-- The loop of the script over the records of a session. -/
private theorem readRows_session (session : Session)
    (readable : ∀ event ∈ session.events, Readable formats fromIsoformat stamp event.1) :
    (session.events.mapIdx fun k event => recordFields formats (sequenceAt (k + 1)) event).foldlM
        (readRow fromIsoformat columnNames) ([], []) =
      some (session.imuRows formats stamp, session.markerRows stamp) := by
  obtain ⟨startHas, startAccepted⟩ := readable _ (List.mem_append_left _ List.mem_cons_self)
  obtain ⟨stopHas, stopAccepted⟩ := readable _ (List.mem_append_right _ (List.mem_singleton_self _))
  have callsReadable : ∀ call ∈ session.calls, Readable formats fromIsoformat stamp call.1.timestamp :=
    fun call member => readable (call.1.timestamp, call.2.event)
      (List.mem_append_left _ (List.mem_cons_of_mem _ (List.mem_map_of_mem member)))
  rw [Session.events, List.mapIdx_append, List.mapIdx_cons, List.mapIdx_singleton, List.foldlM_append,
    List.foldlM_cons, readRow_recordFields _ _ _ startHas startAccepted]
  change Option.bind (Option.bind (some ([], [])) _) _ = _
  rw [Option.bind_some, readRows_calls session.calls (fun k => sequenceAt (k + 1 + 1)) callsReadable, Option.bind_some,
    List.foldlM_cons, readRow_recordFields _ _ _ stopHas stopAccepted]
  rfl

/-- Rows stamped with the times of their calls are in order when the clock does not step back. -/
private theorem rows_sorted {Row : Type} (key : Row → ℤ) {row : ClockReads × LogCall → Option Row} {session : Session}
    (stamped : ∀ call r, row call = some r → key r = stamp call.1.timestamp) (monotone : Monotone stamp)
    (forward : session.events.Pairwise (·.1 ≤ ·.1)) :
    (session.calls.filterMap row).Pairwise fun a b => key a ≤ key b := by
  have events := (List.pairwise_append.mp forward).1
  have calls := List.pairwise_map.mp (List.pairwise_cons.mp events).2
  refine calls.filterMap row fun a b order r isRow r' isRow' => ?_
  rw [stamped a r isRow, stamped b r' isRow']
  exact monotone order

private theorem imuRow_stamped {call : LogCall} {t : ℤ} {r : ImuRow Double} (isRow : call.imuRow formats t = some r) :
    r.t = t := by
  simp only [LogCall.imuRow] at isRow
  split at isRow
  · exact Option.some.inj isRow ▸ rfl
  · exact absurd isRow (by simp)

private theorem markerRow_stamped {call : LogCall} {t : ℤ} {r : MarkerRow} (isRow : call.markerRow t = some r) :
    r.t = t := by
  simp only [LogCall.markerRow] at isRow
  split at isRow
  · exact Option.some.inj isRow ▸ rfl
  · exact absurd isRow (by simp)

private theorem readRecord_file (session : Session)
    (readable : ∀ event ∈ session.events, Readable formats fromIsoformat stamp event.1) (monotone : Monotone stamp)
    (forward : session.events.Pairwise (·.1 ≤ ·.1)) :
    readRecord fromIsoformat (utf16Decode (session.file formats)) =
      some (session.imuRows formats stamp, session.markerRows stamp) := by
  have imuSorted : (session.imuRows formats stamp).Pairwise fun a b => a.t ≤ b.t :=
    rows_sorted ImuRow.t (fun _ _ => imuRow_stamped) monotone forward
  have markersSorted : (session.markerRows stamp).Pairwise fun a b => a.t ≤ b.t :=
    rows_sorted MarkerRow.t (fun _ _ => markerRow_stamped) monotone forward
  rw [readRecord]
  rw [csvParse_file, Option.bind_eq_bind, Option.bind_some]
  dsimp only
  rw [readRows_session session readable, Option.bind_eq_bind, Option.bind_some]
  dsimp only
  rw [imuSorted.insertionSort_eq, markersSorted.insertionSort_eq]
  rfl

/-- Parsing the file of a session gives its header and its events, field by field and in order, numbered by
a 32-bit counter; and the calibration script reads its samples and markers from it, in order. -/
theorem session_roundTrip (s : State) {session : Session}
    (readable : ∀ event ∈ session.events, Readable formats fromIsoformat stamp event.1) (monotone : Monotone stamp)
    (forward : session.events.Pairwise (·.1 ≤ ·.1)) :
    ∃ file records, (session.record formats s).closedFiles = (stopSessionInternal s).closedFiles ++ [file] ∧
      csvParse (utf16Decode file) = some (columnNames :: records) ∧
      (∀ record ∈ records, record.length = 15) ∧
      records = session.events.mapIdx (fun k event => recordFields formats (sequenceAt (k + 1)) event) ∧
      (session.events.length < 2 ^ 31 →
        records = session.events.mapIdx fun k event => recordFields formats (k + 1) event) ∧
      readRecord fromIsoformat (utf16Decode file) =
        some (session.imuRows formats stamp, session.markerRows stamp) := by
  refine ⟨session.file formats, _, record_closedFiles formats session s, csvParse_file formats session, ?_, rfl, ?_,
    readRecord_file session readable monotone forward⟩
  · intro record member
    obtain ⟨k, bound, rfl⟩ := List.mem_mapIdx.mp member
    rfl
  · intro short
    apply List.ext_getElem?
    intro k
    rw [List.getElem?_mapIdx, List.getElem?_mapIdx]
    cases found : session.events[k]? with
    | none => rw [Option.map_none, Option.map_none]
    | some event =>
      have bound := (List.getElem?_eq_some_iff.mp found).1
      rw [Option.map_some, Option.map_some, sequenceAt_of_lt (by omega), Nat.cast_succ]

end Session

/-- Digits of a fraction of the first second of 2024, as both programs write and read them. -/
def sampleFormats : Formats where
  roundTrip ticks := "2024-01-01T00:00:00.".toList ++ padDigits 7 (ticks - 638396640000000000).toNat ++ ['Z']
  millionths magnitude := (magnitude.num * 2000000 + magnitude.den) / (2 * magnitude.den)

def sampleFromIsoformat (text : List Char) : Option ℤ :=
  let fraction := (text.drop 20).take 7
  if text.take 20 = "2024-01-01T00:00:00.".toList ∧ fraction.all Char.isDigit ∧ text.drop 27 = "+00:00".toList then
    some (63839664000000000 + Nat.ofDigitChars 10 fraction 0 / 10)
  else none

def sampleClock (fraction : ℤ) : ClockReads :=
  { timestamp := 638396640000000000 + fraction, flushCheck := 638396640000000000 + fraction
    flushed := 638396640000000000 + fraction }

/-- A marker with quotes, a comma and a line break, a complete sample, a sample without a yaw, and a status. -/
def sampleSession : Session where
  opened := 638396640000000000
  start := sampleClock 1
  sessionLabel := utf16Encode "first, \"quiet\"".toList
  calls :=
    [(sampleClock 20, .logMarker (utf16Encode " say \"now\",\r\nthen 😊 ".toList)),
     (sampleClock 300, .logImu (utf16Encode "IMU,1".toList) (some 1) (some 2) (some 3) (some (-4)) (some 0) (some 6)
       none (some (.finite true (1 / 3))) (some (.finite true 0)) (some .nan) []),
     (sampleClock 300, .logImu [] none none none (some 1) (some 2) (some 3) none (some (.finite false 1))
       (some (.finite false 1)) none []),
     (sampleClock 4000, .logStatus (utf16Encode "OK".toList))]
  stop := sampleClock 50000

theorem session_roundTrip_sampleSession :
    ∃ file, (sampleSession.record sampleFormats {}).closedFiles = [file] ∧
      readRecord sampleFromIsoformat (utf16Decode file) =
        some ([{ t := 63839664000000030, roll := .finite true (333333 / 1000000), pitch := .finite false 0, yaw := .nan,
                 gx := .finite true 4, gy := .finite false 0, gz := .finite false 6 }],
          [{ t := 63839664000000002, note := "say \"now\",\r\nthen 😊".toList }]) := by
  have readable : ∀ event ∈ sampleSession.events,
      Readable sampleFormats sampleFromIsoformat (fun ticks => ticks / 10) event.1 := by
    simp only [Readable]
    decide
  have monotone : Monotone fun ticks : ℤ => ticks / 10 := fun _ _ order => Int.ediv_le_ediv (by decide) order
  have forward : sampleSession.events.Pairwise (·.1 ≤ ·.1) := by decide
  obtain ⟨file, records, closed, -, -, -, -, read⟩ := session_roundTrip {} readable monotone forward
  refine ⟨file, closed, read.trans ?_⟩
  decide +kernel

/-- The file holds every string unit by unit, and the counter never wraps. -/
def Verbatim (formats : Formats) (session : Session) : Prop :=
  ∃ file records, (session.record formats {}).closedFiles = [file] ∧
    csvParse (utf16Decode file) = some (columnNames :: records) ∧
    records.map (List.map utf16Encode) = session.events.mapIdx fun k event => event.2.cells formats event.1 (k + 1)

private theorem Verbatim.cells_eq {formats : Formats} {session : Session} (verbatim : Verbatim formats session) {k : ℕ}
    {event : ℤ × Event} (found : session.events[k]? = some event) :
    (recordFields formats (sequenceAt (k + 1)) event).map utf16Encode = event.2.cells formats event.1 (k + 1) := by
  obtain ⟨file, records, closed, parsed, same⟩ := verbatim
  have only : file = session.file formats := by
    have := closed.symm.trans (record_closedFiles formats session {})
    simpa [stopSessionInternal] using this
  rw [only, csvParse_file, Option.some_inj] at parsed
  rw [← (List.cons.inj parsed).2] at same
  have atK := congrArg (fun rows => rows[k]?) same
  simpa only [List.getElem?_map, List.getElem?_mapIdx, found, Option.map_some, Option.some_inj] using atK

private theorem Verbatim.sequence_eq {formats : Formats} {session : Session} (verbatim : Verbatim formats session)
    {k : ℕ} {event : ℤ × Event} (found : session.events[k]? = some event) :
    printInt (sequenceAt (k + 1)) = printInt (k + 1) := by
  have second := congrArg (fun cells => cells[1]?) (verbatim.cells_eq found)
  rw [recordFields_eq] at second
  have encoded : utf16Encode (printInt (sequenceAt (k + 1))) = utf16Encode (printInt (k + 1)) := Option.some.inj second
  rw [← utf16Decode_utf16Encode (printInt (sequenceAt (k + 1))), encoded, utf16Decode_utf16Encode]

/-- A marker whose note is one unpaired surrogate. -/
def unpairedSession : Session where
  opened := 638396640000000000
  start := sampleClock 1
  sessionLabel := []
  calls := [(sampleClock 2, .logMarker [0xD800])]
  stop := sampleClock 3

/-- So many empty markers. -/
def markersSession (count : ℕ) : Session where
  opened := 638396640000000000
  start := sampleClock 1
  sessionLabel := []
  calls := List.replicate count (sampleClock 2, .logMarker [])
  stop := sampleClock 3

private theorem markersSession_event (count : ℕ) :
    (markersSession (count + 1)).events[count + 1]? =
      some ((sampleClock 2).timestamp, (LogCall.logMarker []).event) := by
  simp [Session.events, markersSession]

/-- UTF-8 cannot carry an unpaired surrogate, and the event number `2 ^ 31` is written as a negative number. -/
theorem session_not_verbatim :
    ¬Verbatim sampleFormats unpairedSession ∧ ¬Verbatim sampleFormats (markersSession (2 ^ 31 - 1)) := by
  constructor
  · intro verbatim
    have note := congrArg List.getLast? (verbatim.cells_eq (k := 1) rfl)
    exact absurd note (by decide)
  · intro verbatim
    have sequence := verbatim.sequence_eq (markersSession_event (2 ^ 31 - 2))
    exact absurd sequence (by decide)

end GestureSuite.Recorder
