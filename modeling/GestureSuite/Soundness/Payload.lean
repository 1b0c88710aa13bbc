import Mathlib
import GestureSuite.Model.Firmware.Imu
import GestureSuite.Model.Host.Payload
import GestureSuite.ToMathlib.ListJoin

/-! # From the sensor's registers to the host's sample

The firmware prints a sample and the host parses it. The two programs agree on every register block and
every clock: the printed line always fits its buffer, it survives the trip through bytes and decoding,
and the parser finds the seven values in the places the printer has put them. Of a line that was cut on
the way only the temperature can change. Bytes that are no text at all are not reported as such.
-/

namespace GestureSuite

open Text Firmware Host

private theorem not_isWhite_of_isDigit {c : Char} (digit : c.isDigit = true) : isWhite c = false := by
  have range := toNat_of_isDigit digit
  have notSpace : c ≠ ' ' := by
    rintro rfl
    simp at range
  simp only [isWhite, Bool.or_eq_false_iff, decide_eq_false_iff_not, Bool.and_eq_false_iff]
  exact ⟨notSpace, .inr (by omega)⟩

/-- A text of digits and signs starts with no white space. -/
private theorem dropWhile_isWhite_numeral {text : List Char} (numeral : ∀ c ∈ text, c = '-' ∨ c.isDigit = true) :
    text.dropWhile isWhite = text := by
  cases text with
  | nil => rfl
  | cons c rest =>
    have solid : isWhite c = false := by
      rcases numeral c List.mem_cons_self with rfl | digit
      · decide
      · exact not_isWhite_of_isDigit digit
    rw [List.dropWhile_cons_of_neg (by simp [solid])]

/-- Every 32-bit integer is read back as it was printed. -/
theorem intTryParse_printInt {z : ℤ} (low : -2 ^ 31 ≤ z) (high : z < 2 ^ 31) : intTryParse (printInt z) = some z := by
  have value : (if decide (z < 0) = true then -(z.natAbs : ℤ) else (z.natAbs : ℤ)) = z := by
    split_ifs with negative
    · have := of_decide_eq_true negative
      omega
    · have := of_decide_eq_false (Bool.eq_false_iff.mpr negative)
      omega
  rw [intTryParse]
  rw [dropWhile_isWhite_numeral fun _ => mem_printInt, parseSign_printInt]
  dsimp only
  rw [takeWhile_toDigits, dropWhile_toDigits, Nat.ofDigitChars_ten_toDigits, value, if_neg, if_pos ⟨low, high⟩]
  simp [Nat.toDigits_ne_nil]

/-- A signed run of few digits is a number as soon as there is a digit. -/
private theorem intTryParse_signed (negative : Bool) {digits : List Char} (all : ∀ c ∈ digits, c.isDigit = true)
    (short : digits.length ≤ 9) :
    (intTryParse ((if negative then ['-'] else []) ++ digits)).isSome = true ↔ digits ≠ [] := by
  cases digits with
  | nil => cases negative <;> decide
  | cons d rest =>
    have numeral : ∀ c ∈ (if negative then ['-'] else []) ++ d :: rest, c = '-' ∨ c.isDigit = true := by
      intro c member
      rcases List.mem_append.mp member with sign | digit
      · cases negative <;> simp_all
      · exact .inr (all c digit)
    have small := ofDigitChars_lt all 0
    have power : 10 ^ (d :: rest).length ≤ 10 ^ 9 := Nat.pow_le_pow_right (by decide) short
    have run : (d :: rest).takeWhile Char.isDigit = d :: rest := List.takeWhile_eq_self_iff.mpr all
    have stop : (d :: rest).dropWhile Char.isDigit = [] := List.dropWhile_eq_nil_iff.mpr all
    rw [intTryParse]
    rw [dropWhile_isWhite_numeral numeral, parseSign_signed negative ⟨d, rfl, all d List.mem_cons_self⟩]
    dsimp only
    rw [run, stop, if_neg (by simp), if_pos (by split <;> omega)]
    simp

/-- The big-endian two's-complement value of two bytes. -/
def bigEndianInt16 (high low : UInt8) : ℤ := (high.toNat * 256 + low.toNat : ℤ).bmod (2 ^ 16)

private theorem joinBytes_toNat (high low : UInt8) :
    ((high.toUInt32 <<< 8) ||| low.toUInt32).toUInt16.toNat = high.toNat * 256 + low.toNat := by
  have highBound := high.toNat_lt
  have lowBound := low.toNat_lt
  have eight : UInt32.toNat 8 % 32 = 8 := by decide
  have joined : high.toNat <<< 8 ||| low.toNat = high.toNat * 256 + low.toNat := by
    rw [← Nat.shiftLeft_add_eq_or_of_lt lowBound, Nat.shiftLeft_eq]
  have shifted : high.toNat <<< 8 % 2 ^ 32 = high.toNat <<< 8 := by
    rw [Nat.shiftLeft_eq]
    omega
  rw [UInt32.toNat_toUInt16, UInt32.toNat_or, UInt32.toNat_shiftLeft, UInt8.toNat_toUInt32, UInt8.toNat_toUInt32,
    eight, shifted, joined]
  omega

theorem toInt16_toInt (high low : UInt8) : (toInt16 high low).toInt = bigEndianInt16 high low := by
  have bits := joinBytes_toNat high low
  unfold toInt16 bigEndianInt16
  generalize ((high.toUInt32 <<< 8) ||| low.toUInt32).toUInt16 = word at bits ⊢
  have value : word.toInt16.toInt = (word.toNat : ℤ).bmod (2 ^ 16) := BitVec.toInt_eq_toNat_bmod word.toBitVec
  rw [value, bits]
  push_cast
  rfl

private theorem int16_natAbs_lt (x : Int16) : x.toInt.natAbs < 10 ^ 5 := by
  have low := x.le_toInt
  have high := x.toInt_lt
  omega

private theorem intTryParse_int16 (x : Int16) : intTryParse (printInt x.toInt) = some x.toInt := by
  have low := x.le_toInt
  have high := x.toInt_lt
  exact intTryParse_printInt (by omega) (by omega)

/-- The characters of a field are letters of the tag, digits or a sign. -/
private theorem mem_fields {s : ImuSample} {field : List Char} (member : field ∈ s.fields) {c : Char}
    (inside : c ∈ field) : c ∈ ['I', 'M', 'U'] ∨ c = '-' ∨ c.isDigit = true := by
  simp only [ImuSample.fields, List.mem_cons, List.not_mem_nil, or_false] at member
  rcases member with rfl | rfl | rfl | rfl | rfl | rfl | rfl | rfl | rfl
  · exact .inl inside
  · exact .inr (.inr (isDigit_of_mem_toDigits_ten inside))
  all_goals exact .inr (mem_printInt inside)

private theorem comma_not_mem_fields {s : ImuSample} {field : List Char} (member : field ∈ s.fields) : ',' ∉ field := by
  intro comma
  rcases mem_fields member comma with tag | sign | digit
  · simp at tag
  · cases sign
  · simp [Char.isDigit] at digit

/-- The line up to the temperature, with the comma in front of it. -/
def Firmware.ImuSample.motionText (s : ImuSample) : List Char := [','].intercalate s.fields.dropLast ++ [',']

private theorem motionText_append (s : ImuSample) (part : List Char) :
    s.motionText ++ part = [','].intercalate (s.fields.dropLast ++ [part]) := by
  rw [List.intercalate_concat (by simp [ImuSample.fields]), ImuSample.motionText, List.append_assoc]
  rfl

private theorem line_eq_motionText (s : ImuSample) : s.line = s.motionText ++ printInt s.temp.toInt := by
  rw [motionText_append]
  rfl

private theorem splitOn_motionText (s : ImuSample) {part : List Char} (solid : ',' ∉ part) :
    (s.motionText ++ part).splitOn ',' = s.fields.dropLast ++ [part] := by
  rw [motionText_append]
  apply List.splitOn_intercalate
  · intro field member
    rcases List.mem_append.mp member with earlier | last
    · exact comma_not_mem_fields (List.mem_of_mem_dropLast earlier)
    · rw [List.mem_singleton.mp last]
      exact solid
  · simp

private theorem mem_line {s : ImuSample} {c : Char} (member : c ∈ s.line) :
    c ∈ ['I', 'M', 'U', ',', '-'] ∨ c.isDigit = true := by
  rcases List.mem_of_mem_intercalate_singleton member with rfl | ⟨field, inFields, inside⟩
  · exact .inl (by simp)
  · rcases mem_fields inFields inside with tag | rfl | digit
    · exact .inl (List.mem_append_left [',', '-'] tag)
    · exact .inl (by simp)
    · exact .inr digit

private theorem line_ascii {s : ImuSample} {c : Char} (member : c ∈ s.line) : c.toNat < 128 := by
  rcases mem_line member with other | digit
  · fin_cases other <;> decide
  · have := toNat_of_isDigit digit
    omega

/-- None of the characters that `BufferToUtf8OrHex` trims occurs in the line. -/
private theorem line_not_trimmed {s : ImuSample} {c : Char} (member : c ∈ s.line) :
    ['\x00', '\r', '\n'].contains c = false := by
  rcases mem_line member with other | digit
  · fin_cases other <;> decide
  · have range := toNat_of_isDigit digit
    rw [List.contains_eq_mem, decide_eq_false_iff_not]
    intro trimmed
    fin_cases trimmed <;> simp at range

private theorem trim_eq_self {set text : List Char} (none : ∀ c ∈ text, set.contains c = false) :
    trim set text = text := by
  have front : text.dropWhile set.contains = text := by
    rw [List.dropWhile_eq_self_iff]
    intro positive
    simpa using none _ (List.getElem_mem positive)
  rw [trim, front, List.rdropWhile_eq_self_iff]
  intro nonempty
  simpa using none _ (List.getLast_mem nonempty)

private theorem line_eq (s : ImuSample) : ∃ rest, s.line = 'I' :: rest := by
  refine ⟨['M', 'U'] ++ [','] ++ [','].intercalate s.fields.tail, ?_⟩
  rw [ImuSample.line, ImuSample.fields, List.intercalate_cons_cons]
  rfl

/-- The printed line is shorter than the buffer, so `snprintf` keeps all of it. -/
theorem line_length (s : ImuSample) : s.line.length < 128 := by
  have short : ∀ field ∈ s.fields, field.length < 11 := by
    intro field member
    have clock : (Nat.toDigits 10 s.timestampMs.toNat).length ≤ 10 := by
      rw [Nat.length_toDigits_le_iff (by decide) (by decide)]
      have := s.timestampMs.toNat_lt
      omega
    have value (x : Int16) : (printInt x.toInt).length < 11 := by
      have := length_printInt_le (by decide) (int16_natAbs_lt x)
      omega
    simp only [ImuSample.fields, List.mem_cons, List.not_mem_nil, or_false] at member
    rcases member with rfl | rfl | rfl | rfl | rfl | rfl | rfl | rfl | rfl
    · decide
    · omega
    all_goals exact value _
  have whole : s.line.length ≤ s.fields.length * 11 := List.length_intercalate_singleton_le short
  have count : s.fields.length = 9 := rfl
  omega

theorem buildImuText_eq_line (s : ImuSample) : buildImuText s = s.line :=
  List.take_of_length_le (by have := line_length s; omega)

/-- What is left of a line is text to the host, and the host keeps all of it. -/
private theorem bufferToUtf8OrHex_truncated {s : ImuSample} {text : List Char} (cut : text <+: s.line)
    (nonempty : text ≠ []) : bufferToUtf8OrHex (asciiBytes text) = text := by
  have decoded : utf8Decode (asciiBytes text) = text :=
    utf8Decode_asciiBytes fun _ member => line_ascii (cut.subset member)
  obtain ⟨rest, first⟩ := line_eq s
  obtain ⟨c, tail, rfl⟩ := List.exists_cons_of_ne_nil nonempty
  obtain rfl : c = 'I' := by
    rw [first] at cut
    exact (List.cons_prefix_cons.mp cut).1
  have filled : (asciiBytes ('I' :: tail)).isEmpty = false := rfl
  have solid : isNullOrWhiteSpace ('I' :: tail) = false := by
    rw [isNullOrWhiteSpace, List.all_cons]
    rfl
  rw [bufferToUtf8OrHex]
  dsimp only
  rw [decoded, filled, solid]
  exact trim_eq_self fun _ member => line_not_trimmed (cut.subset member)

private theorem bufferToUtf8OrHex_line (s : ImuSample) : bufferToUtf8OrHex (asciiBytes s.line) = s.line := by
  obtain ⟨rest, first⟩ := line_eq s
  exact bufferToUtf8OrHex_truncated (List.prefix_refl _) (by simp [first])

/-- A line whose last field is replaced by another text without a comma. -/
private theorem tryParseImuRaw_motionText (s : ImuSample) {part : List Char} (solid : ',' ∉ part) :
    tryParseImuRaw (s.motionText ++ part) = (intTryParse part).map fun temp =>
      { ax := s.ax.toInt, ay := s.ay.toInt, az := s.az.toInt, gx := s.gx.toInt, gy := s.gy.toInt, gz := s.gz.toInt,
        temp } := by
  rw [tryParseImuRaw]
  rw [splitOn_motionText s solid]
  cases read : intTryParse part <;>
    simp [ImuSample.fields, equalsIgnoreCase, intTryParse_int16, read]

private theorem tryParseImuRaw_line (s : ImuSample) :
    tryParseImuRaw s.line = some
      { ax := s.ax.toInt, ay := s.ay.toInt, az := s.az.toInt, gx := s.gx.toInt, gy := s.gy.toInt, gz := s.gz.toInt,
        temp := s.temp.toInt } := by
  rw [line_eq_motionText, tryParseImuRaw_motionText s (comma_not_mem_fields (s := s) (by simp [ImuSample.fields])),
    intTryParse_int16]
  rfl

/-- For every register block and every clock, the host reads back the seven register pairs of the block,
and the line is never cut. -/
theorem imu_roundTrip (raw : Vector UInt8 14) (millis : UInt32) :
    ∃ sample, readSample true (some raw) millis = some sample ∧
      sample.line.length < 128 ∧ buildImuText sample = sample.line ∧
      tryParseImuRaw (bufferToUtf8OrHex (asciiBytes (buildImuText sample))) = some
        { ax := bigEndianInt16 (raw.get 0) (raw.get 1)
          ay := bigEndianInt16 (raw.get 2) (raw.get 3)
          az := bigEndianInt16 (raw.get 4) (raw.get 5)
          gx := bigEndianInt16 (raw.get 8) (raw.get 9)
          gy := bigEndianInt16 (raw.get 10) (raw.get 11)
          gz := bigEndianInt16 (raw.get 12) (raw.get 13)
          temp := bigEndianInt16 (raw.get 6) (raw.get 7) } := by
  refine ⟨_, rfl, line_length _, buildImuText_eq_line _, ?_⟩
  rw [buildImuText_eq_line, bufferToUtf8OrHex_line, tryParseImuRaw_line]
  simp only [toInt16_toInt]
  rfl

/-- The bytes end inside the temperature, behind at least one of its digits. -/
def CutInTemperature (s : ImuSample) (bytes : List UInt8) : Prop :=
  ∃ part, part <+: printInt s.temp.toInt ∧ part ≠ printInt s.temp.toInt ∧ (∃ c ∈ part, c.isDigit = true) ∧
    bytes = asciiBytes (s.motionText ++ part)

/-- A piece of a printed number is a number exactly when it has a digit. -/
private theorem intTryParse_truncated (x : Int16) {part : List Char} (cut : part <+: printInt x.toInt) :
    (intTryParse part).isSome = true ↔ ∃ c ∈ part, c.isDigit = true := by
  have digits : ∀ run, run <+: Nat.toDigits 10 x.toInt.natAbs →
      (∀ c ∈ run, c.isDigit = true) ∧ run.length ≤ 9 := by
    intro run within
    refine ⟨fun c member => isDigit_of_mem_toDigits_ten (within.subset member), within.length_le.trans ?_⟩
    rw [Nat.length_toDigits_le_iff (by decide) (by decide)]
    exact (int16_natAbs_lt x).trans (by decide)
  have shape : ∃ (negative : Bool) (run : List Char), part = (if negative then ['-'] else []) ++ run ∧
      run <+: Nat.toDigits 10 x.toInt.natAbs := by
    rw [printInt] at cut
    split_ifs at cut
    · cases part with
      | nil => exact ⟨false, [], rfl, List.nil_prefix⟩
      | cons c run =>
        obtain ⟨rfl, within⟩ := List.cons_prefix_cons.mp cut
        exact ⟨true, run, rfl, within⟩
    · exact ⟨false, part, rfl, cut⟩
  obtain ⟨negative, run, rfl, within⟩ := shape
  obtain ⟨all, short⟩ := digits run within
  rw [intTryParse_signed negative all short]
  constructor
  · intro nonempty
    obtain ⟨c, member⟩ := List.exists_mem_of_ne_nil run nonempty
    exact ⟨c, List.mem_append_right _ member, all c member⟩
  · rintro ⟨c, member, digit⟩ rfl
    rw [List.append_nil] at member
    cases negative <;> simp at member
    subst member
    simp [Char.isDigit] at digit

/-- A cut in front of the temperature leaves fewer than nine fields. -/
private theorem tryParseImuRaw_of_short {s : ImuSample} {text : List Char}
    (cut : text <+: [','].intercalate s.fields.dropLast) : tryParseImuRaw text = none := by
  have whole : ([','].intercalate s.fields.dropLast).splitOn ',' = s.fields.dropLast := by
    apply List.splitOn_intercalate
    · intro field member
      exact comma_not_mem_fields (List.mem_of_mem_dropLast member)
    · simp [ImuSample.fields]
  have commas := List.length_splitOn ',' ([','].intercalate s.fields.dropLast)
  have fewer : (text.splitOn ',').length < 9 := by
    rw [List.length_splitOn]
    have fields : s.fields.dropLast.length = 8 := rfl
    rw [whole, fields] at commas
    have fewer := cut.sublist.count_le ','
    omega
  rw [tryParseImuRaw]
  simp [fewer]

/-- Every prefix of the line is a prefix of the fields in front of the temperature or reaches into it. -/
private theorem prefix_line_cases {s : ImuSample} {text : List Char} (cut : text <+: s.line) :
    text <+: [','].intercalate s.fields.dropLast ∨
      ∃ part, part <+: printInt s.temp.toInt ∧ text = s.motionText ++ part := by
  rw [line_eq_motionText] at cut
  rcases List.prefix_or_prefix_of_prefix cut (List.prefix_append _ _) with front | ⟨part, rfl⟩
  · rw [ImuSample.motionText] at front
    rcases List.prefix_concat_iff.mp front with rfl | front
    · exact .inr ⟨[], List.nil_prefix, by simp [ImuSample.motionText]⟩
    · exact .inl front
  · exact .inr ⟨part, (List.prefix_append_right_inj _).mp cut, rfl⟩

/-- The host's reading of the part in front of the temperature and a piece of it. -/
private theorem read_motionText (s : ImuSample) {part : List Char} (within : part <+: printInt s.temp.toInt) :
    tryParseImuRaw (bufferToUtf8OrHex (asciiBytes (s.motionText ++ part))) = (intTryParse part).map fun temp =>
      { ax := s.ax.toInt, ay := s.ay.toInt, az := s.az.toInt, gx := s.gx.toInt, gy := s.gy.toInt, gz := s.gz.toInt,
        temp } := by
  have cut : s.motionText ++ part <+: s.line := by
    rw [line_eq_motionText]
    exact (List.prefix_append_right_inj _).mpr within
  have solid : ',' ∉ part := by
    intro comma
    have member : printInt s.temp.toInt ∈ s.fields := by simp [ImuSample.fields]
    exact comma_not_mem_fields member (within.subset comma)
  rw [bufferToUtf8OrHex_truncated cut (by simp [ImuSample.motionText]), tryParseImuRaw_motionText s solid]

/-- What the host accepts of a cut line reaches into the temperature. -/
private theorem reaches_temperature {s : ImuSample} {text : List Char} {raw : ImuRawSample} (cut : text <+: s.line)
    (accepted : tryParseImuRaw (bufferToUtf8OrHex (asciiBytes text)) = some raw) :
    ∃ part, part <+: printInt s.temp.toInt ∧ text = s.motionText ++ part := by
  rcases prefix_line_cases cut with short | reaches
  · have rejected : tryParseImuRaw (bufferToUtf8OrHex (asciiBytes text)) = none := by
      by_cases empty : text = []
      · rw [empty]
        decide
      · rw [bufferToUtf8OrHex_truncated cut empty, tryParseImuRaw_of_short short]
    rw [rejected] at accepted
    cases accepted
  · exact reaches

/-- Of every proper prefix of a notification, the host accepts exactly those that end inside the temperature
behind a digit of it, and what it accepts has the six motion values of the sample. -/
theorem truncated_notification (s : ImuSample) (bytes : List UInt8) (cut : bytes <+: asciiBytes (buildImuText s))
    (proper : bytes ≠ asciiBytes (buildImuText s)) :
    ((tryParseImuRaw (bufferToUtf8OrHex bytes)).isSome = true ↔ CutInTemperature s bytes) ∧
      ∀ raw, tryParseImuRaw (bufferToUtf8OrHex bytes) = some raw →
        raw.ax = s.ax.toInt ∧ raw.ay = s.ay.toInt ∧ raw.az = s.az.toInt ∧
        raw.gx = s.gx.toInt ∧ raw.gy = s.gy.toInt ∧ raw.gz = s.gz.toInt := by
  have prefixes : ∃ text, text <+: s.line ∧ bytes = asciiBytes text := by
    rw [buildImuText_eq_line, List.prefix_iff_eq_take] at cut
    refine ⟨s.line.take bytes.length, List.take_prefix _ _, ?_⟩
    rw [asciiBytes, List.map_take]
    exact cut
  rw [buildImuText_eq_line] at proper
  obtain ⟨text, within, rfl⟩ := prefixes
  constructor
  · constructor
    · intro some
      obtain ⟨raw, accepted⟩ := Option.isSome_iff_exists.mp some
      obtain ⟨part, piece, rfl⟩ := reaches_temperature within accepted
      rw [read_motionText s piece, Option.isSome_map, intTryParse_truncated _ piece] at some
      refine ⟨part, piece, ?_, some, rfl⟩
      rintro rfl
      exact proper (by rw [line_eq_motionText])
    · rintro ⟨part, piece, -, digit, same⟩
      rw [same, read_motionText s piece, Option.isSome_map, intTryParse_truncated _ piece]
      exact digit
  · intro raw accepted
    obtain ⟨part, piece, rfl⟩ := reaches_temperature within accepted
    rw [read_motionText s piece] at accepted
    obtain ⟨temp, -, rfl⟩ := Option.map_eq_some_iff.mp accepted
    exact ⟨rfl, rfl, rfl, rfl, rfl, rfl⟩

/-- Cut by one byte, a temperature of 2731 becomes 273 and the motion values stay. -/
theorem truncated_notification_example :
    tryParseImuRaw (bufferToUtf8OrHex (asciiBytes "IMU,7,1,-2,3,-4,5,-6,273".toList)) =
        some ⟨1, -2, 3, -4, 5, -6, 273⟩ ∧
      CutInTemperature ⟨1, -2, 3, -4, 5, -6, 2731, 7⟩ (asciiBytes "IMU,7,1,-2,3,-4,5,-6,273".toList) := by
  have accepted : tryParseImuRaw (bufferToUtf8OrHex (asciiBytes "IMU,7,1,-2,3,-4,5,-6,273".toList)) =
      some ⟨1, -2, 3, -4, 5, -6, 273⟩ := by decide
  obtain ⟨accepts, -⟩ := truncated_notification ⟨1, -2, 3, -4, 5, -6, 2731, 7⟩
    (asciiBytes "IMU,7,1,-2,3,-4,5,-6,273".toList) (by decide) (by decide)
  exact ⟨accepted, accepts.mp (by rw [accepted]; rfl)⟩

/-- The sample as the host names its fields. -/
def Firmware.ImuSample.sent (s : ImuSample) : ImuRawSample where
  ax := s.ax.toInt
  ay := s.ay.toInt
  az := s.az.toInt
  gx := s.gx.toInt
  gy := s.gy.toInt
  gz := s.gz.toInt
  temp := s.temp.toInt

theorem tryParseImuRaw_buildImuText (s : ImuSample) :
    tryParseImuRaw (bufferToUtf8OrHex (asciiBytes (buildImuText s))) = some s.sent := by
  rw [buildImuText_eq_line, bufferToUtf8OrHex_line, tryParseImuRaw_line]
  rfl

/-- What the host accepts of an arrived piece is the sample that was sent, but for its temperature. -/
theorem motion_of_arrived {s : ImuSample} {bytes : List UInt8} {raw : ImuRawSample}
    (cut : bytes <+: asciiBytes (buildImuText s)) (accepted : tryParseImuRaw (bufferToUtf8OrHex bytes) = some raw) :
    raw = { s.sent with temp := raw.temp } := by
  rw [buildImuText_eq_line, List.prefix_iff_eq_take, asciiBytes, ← List.map_take] at cut
  rw [cut] at accepted
  obtain ⟨part, piece, reaches⟩ := reaches_temperature (List.take_prefix _ _) accepted
  change tryParseImuRaw (bufferToUtf8OrHex (asciiBytes _)) = _ at accepted
  rw [reaches, read_motionText s piece] at accepted
  obtain ⟨temp, -, rfl⟩ := Option.map_eq_some_iff.mp accepted
  rfl

private theorem mem_trim {set text : List Char} {c : Char} (member : c ∈ text) (kept : set.contains c = false) :
    c ∈ trim set text := by
  have front : c ∈ text.dropWhile set.contains := by
    have split : text.takeWhile set.contains ++ text.dropWhile set.contains = text :=
      List.takeWhile_append_dropWhile
    rw [← split] at member
    rcases List.mem_append.mp member with taken | dropped
    · exact absurd (List.mem_takeWhile_imp taken) (Bool.eq_false_iff.mp kept)
    · exact dropped
  have split : (text.dropWhile set.contains).rdropWhile set.contains ++
      (text.dropWhile set.contains).rtakeWhile set.contains = text.dropWhile set.contains :=
    List.rdropWhile_append_rtakeWhile
  rw [← split] at front
  rcases List.mem_append.mp front with inside | taken
  · exact inside
  · exact absurd (List.mem_rtakeWhile_imp taken) (Bool.eq_false_iff.mp kept)

/-- A trimmed character behind a text that is not all trimmed away leaves the result alone. -/
private theorem trim_concat {set text : List Char} {c d : Char} (member : c ∈ text)
    (kept : set.contains c = false) (trimmed : set.contains d = true) :
    trim set (text ++ [d]) = trim set text := by
  have front : (text.dropWhile set.contains).isEmpty = false := by
    rw [List.isEmpty_eq_false_iff]
    intro empty
    exact absurd (List.dropWhile_eq_nil_iff.mp empty c member) (Bool.eq_false_iff.mp kept)
  rw [trim, List.dropWhile_append, front]
  exact List.rdropWhile_concat_pos _ _ _ trimmed

private theorem replacementChar_not_mem_hex (data : List UInt8) :
    replacementChar ∉ "HEX:".toList ++ data.flatMap hexByte := by
  have digit : ∀ n < 16, (Nat.digitChar n).toUpper ≠ replacementChar := by decide
  intro member
  rcases List.mem_append.mp member with tag | hex
  · exact absurd tag (by decide)
  · obtain ⟨byte, -, inside⟩ := List.mem_flatMap.mp hex
    have bound := byte.toNat_lt
    simp only [hexByte, List.map_cons, List.map_nil, List.mem_cons, List.not_mem_nil, or_false] at inside
    rcases inside with high | low
    · exact digit (byte.toNat / 16) (by omega) high.symm
    · exact digit (byte.toNat % 16) (by omega) low.symm

/-- The replacement character is no white space, so the text branch is taken. -/
private theorem bufferToUtf8OrHex_of_replacement {data : List UInt8} (nonempty : data ≠ [])
    (replaced : replacementChar ∈ utf8Decode data) :
    bufferToUtf8OrHex data = trim ['\x00', '\r', '\n'] (utf8Decode data) := by
  have filled : data.isEmpty = false := List.isEmpty_eq_false_iff.mpr nonempty
  have solid : isNullOrWhiteSpace (utf8Decode data) = false := by
    rw [isNullOrWhiteSpace, List.all_eq_false]
    exact ⟨replacementChar, replaced, by decide⟩
  rw [bufferToUtf8OrHex]
  dsimp only
  rw [filled, solid]
  rfl

/-- No undecodable buffer is reported in hexadecimal, and each of them shares its report with another one. -/
theorem undecodable_never_hex (data : List UInt8) (nonempty : data ≠ []) (invalid : ¬ ValidUtf8 data) :
    bufferToUtf8OrHex data ≠ "HEX:".toList ++ data.flatMap hexByte ∧
      ∃ other, other ≠ data ∧ other ≠ [] ∧ ¬ ValidUtf8 other ∧
        bufferToUtf8OrHex other = bufferToUtf8OrHex data := by
  have replaced := replacementChar_mem_of_not_validUtf8 invalid
  have kept : ['\x00', '\r', '\n'].contains replacementChar = false := by decide
  constructor
  · intro hex
    rw [bufferToUtf8OrHex_of_replacement nonempty replaced] at hex
    apply replacementChar_not_mem_hex data
    rw [← hex]
    exact mem_trim replaced kept
  · -- a zero byte at the end is trimmed again
    refine ⟨data ++ [0], by simp, by simp, fun valid => invalid valid.of_concat_zero, ?_⟩
    have still : replacementChar ∈ utf8Decode (data ++ [0]) := by
      rw [utf8Decode_concat_zero]
      exact List.mem_append_left _ replaced
    rw [bufferToUtf8OrHex_of_replacement (by simp) still, bufferToUtf8OrHex_of_replacement nonempty replaced,
      utf8Decode_concat_zero]
    exact trim_concat replaced kept (by decide)

private theorem not_validUtf8_of_large {byte : UInt8} (large : 0xF8 ≤ byte.toNat) : ¬ ValidUtf8 [byte] := by
  intro valid
  have small := valid.byte_lt List.mem_cons_self
  omega

theorem undecodable_single_byte : bufferToUtf8OrHex [0xFF] ≠ "HEX:FF".toList :=
  (undecodable_never_hex [0xFF] (by decide) (not_validUtf8_of_large (by decide))).1

/-- The bytes FF and FE are both reported as one replacement character. -/
theorem undecodable_bytes_alike :
    ¬ (∀ data : List UInt8, data ≠ [] → ¬ ValidUtf8 data →
      bufferToUtf8OrHex data = "HEX:".toList ++ data.flatMap hexByte) ∧
    ¬ (∀ first second : List UInt8, first ≠ [] → second ≠ [] → ¬ ValidUtf8 first → ¬ ValidUtf8 second →
      first ≠ second → bufferToUtf8OrHex first ≠ bufferToUtf8OrHex second) := by
  have first : ¬ ValidUtf8 [0xFF] := not_validUtf8_of_large (by decide)
  have second : ¬ ValidUtf8 [0xFE] := not_validUtf8_of_large (by decide)
  constructor
  · intro always
    exact absurd (always [0xFF] (by decide) first) (by decide)
  · intro always
    exact always [0xFF] [0xFE] (by decide) (by decide) first second (by decide) (by decide)

end GestureSuite
