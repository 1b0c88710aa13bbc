import Mathlib.Tactic

/-! # Decoding UTF-8 with replacement

A decoder that never fails: every maximal ill-formed piece of the input becomes one replacement
character. It is written as an automaton that takes one byte at a time, so it is structural on the
input. A byte that does not continue the current sequence ends it and is looked at again as a first byte.
Where no replacement character comes out, the input was the encoding of the output.
-/

namespace GestureSuite.Text

/-- How many bytes are still missing, the bits read so far, and the range of the next byte. -/
structure Utf8State where
  needed : ℕ := 0
  codePoint : ℕ := 0
  lower : ℕ := 0x80
  upper : ℕ := 0xBF
deriving DecidableEq, Repr

def replacementChar : Char := Char.ofNat 0xFFFD

/-- A byte that begins a sequence. The ranges exclude overlong forms, surrogates and values above the
last code point. -/
def utf8Start (byte : ℕ) : Utf8State × List Char :=
  if byte < 0x80 then ({}, [Char.ofNat byte])
  else if 0xC2 ≤ byte ∧ byte ≤ 0xDF then ({ needed := 1, codePoint := byte - 0xC0 }, [])
  else if 0xE0 ≤ byte ∧ byte ≤ 0xEF then
    ({ needed := 2, codePoint := byte - 0xE0, lower := if byte = 0xE0 then 0xA0 else 0x80,
       upper := if byte = 0xED then 0x9F else 0xBF }, [])
  else if 0xF0 ≤ byte ∧ byte ≤ 0xF4 then
    ({ needed := 3, codePoint := byte - 0xF0, lower := if byte = 0xF0 then 0x90 else 0x80,
       upper := if byte = 0xF4 then 0x8F else 0xBF }, [])
  else ({}, [replacementChar])

def utf8Step (s : Utf8State) (byte : ℕ) : Utf8State × List Char :=
  if s.needed = 0 then utf8Start byte
  else if s.lower ≤ byte ∧ byte ≤ s.upper then
    let codePoint := s.codePoint * 64 + (byte - 0x80)
    if s.needed = 1 then ({}, [Char.ofNat codePoint]) else ({ needed := s.needed - 1, codePoint }, [])
  else
    let (next, decoded) := utf8Start byte
    (next, replacementChar :: decoded)

def utf8DecodeFrom (s : Utf8State) : List UInt8 → List Char
  | [] => if s.needed = 0 then [] else [replacementChar]
  | byte :: rest =>
    let (next, decoded) := utf8Step s byte.toNat
    decoded ++ utf8DecodeFrom next rest

def utf8Decode (bytes : List UInt8) : List Char := utf8DecodeFrom {} bytes

/-- Characters written as one byte each. -/
def asciiBytes (text : List Char) : List UInt8 := text.map fun c => UInt8.ofNat c.toNat

/-- ASCII text survives being written byte by byte and decoded. -/
theorem utf8Decode_asciiBytes {text : List Char} (ascii : ∀ c ∈ text, c.toNat < 128) :
    utf8Decode (asciiBytes text) = text := by
  induction text with
  | nil => rfl
  | cons c rest ih =>
    have small := ascii c List.mem_cons_self
    have byte : (UInt8.ofNat c.toNat).toNat = c.toNat := by
      rw [UInt8.toNat_ofNat']
      omega
    have step : utf8Step {} (UInt8.ofNat c.toNat).toNat = ({}, [c]) := by
      simp [utf8Step, utf8Start, byte, small]
    have tail := ih fun d member => ascii d (List.mem_cons_of_mem c member)
    rw [utf8Decode, asciiBytes] at tail ⊢
    rw [List.map_cons, utf8DecodeFrom, step]
    dsimp only
    rw [tail]
    rfl

example : utf8Decode [0x41, 0xE2, 0x82, 0xAC, 0xE2, 0x28] = ['A', '€', replacementChar, '('] := by decide

/-- The bytes of some text. -/
def ValidUtf8 (bytes : List UInt8) : Prop := ∃ text : List Char, bytes = text.flatMap String.utf8EncodeChar

private theorem toNat_val_ofNat {n : ℕ} (valid : n.isValidChar) : (Char.ofNat n).val.toNat = n := by
  rw [Char.ofNat, dif_pos valid]
  rfl

private theorem ofNat_eq_byte {n : ℕ} (byte : UInt8) (same : n = byte.toNat) : UInt8.ofNat n = byte := by
  rw [same, UInt8.ofNat_toNat]

private theorem utf8EncodeChar_one {a : UInt8} (first : a.toNat < 0x80) :
    String.utf8EncodeChar (Char.ofNat a.toNat) = [a] := by
  have valid : a.toNat.isValidChar := .inl (by omega)
  simp only [String.utf8EncodeChar, toNat_val_ofNat valid]
  rw [if_pos (by omega), ofNat_eq_byte a rfl]

private theorem utf8EncodeChar_two {a b : UInt8} (first : 0xC2 ≤ a.toNat ∧ a.toNat ≤ 0xDF)
    (second : 0x80 ≤ b.toNat ∧ b.toNat ≤ 0xBF) :
    String.utf8EncodeChar (Char.ofNat ((a.toNat - 0xC0) * 64 + (b.toNat - 0x80))) = [a, b] := by
  have valid : ((a.toNat - 0xC0) * 64 + (b.toNat - 0x80)).isValidChar := .inl (by omega)
  simp only [String.utf8EncodeChar, toNat_val_ofNat valid]
  rw [if_neg (by omega), if_pos (by omega), ofNat_eq_byte a (by omega), ofNat_eq_byte b (by omega)]

/-- The ranges of the second byte keep overlong forms and surrogates out. -/
private theorem utf8EncodeChar_three {a b c : UInt8} (first : 0xE0 ≤ a.toNat ∧ a.toNat ≤ 0xEF)
    (second : (if a.toNat = 0xE0 then 0xA0 else 0x80) ≤ b.toNat ∧
      b.toNat ≤ if a.toNat = 0xED then 0x9F else 0xBF)
    (third : 0x80 ≤ c.toNat ∧ c.toNat ≤ 0xBF) :
    String.utf8EncodeChar
      (Char.ofNat (((a.toNat - 0xE0) * 64 + (b.toNat - 0x80)) * 64 + (c.toNat - 0x80))) = [a, b, c] := by
  have lower : 0x80 ≤ b.toNat ∧ (a.toNat = 0xE0 → 0xA0 ≤ b.toNat) := by split_ifs at second <;> omega
  have upper : b.toNat ≤ 0xBF ∧ (a.toNat = 0xED → b.toNat ≤ 0x9F) := by split_ifs at second <;> omega
  clear second
  have valid : (((a.toNat - 0xE0) * 64 + (b.toNat - 0x80)) * 64 + (c.toNat - 0x80)).isValidChar := by
    unfold Nat.isValidChar
    omega
  simp only [String.utf8EncodeChar, toNat_val_ofNat valid]
  rw [if_neg (by omega), if_neg (by omega), if_pos (by omega), ofNat_eq_byte a (by omega),
    ofNat_eq_byte b (by omega), ofNat_eq_byte c (by omega)]

/-- The ranges of the second byte keep overlong forms and values above the last code point out. -/
private theorem utf8EncodeChar_four {a b c d : UInt8} (first : 0xF0 ≤ a.toNat ∧ a.toNat ≤ 0xF4)
    (second : (if a.toNat = 0xF0 then 0x90 else 0x80) ≤ b.toNat ∧
      b.toNat ≤ if a.toNat = 0xF4 then 0x8F else 0xBF)
    (third : 0x80 ≤ c.toNat ∧ c.toNat ≤ 0xBF) (fourth : 0x80 ≤ d.toNat ∧ d.toNat ≤ 0xBF) :
    String.utf8EncodeChar
      (Char.ofNat ((((a.toNat - 0xF0) * 64 + (b.toNat - 0x80)) * 64 + (c.toNat - 0x80)) * 64 + (d.toNat - 0x80))) =
      [a, b, c, d] := by
  have lower : 0x80 ≤ b.toNat ∧ (a.toNat = 0xF0 → 0x90 ≤ b.toNat) := by split_ifs at second <;> omega
  have upper : b.toNat ≤ 0xBF ∧ (a.toNat = 0xF4 → b.toNat ≤ 0x8F) := by split_ifs at second <;> omega
  clear second
  have valid : ((((a.toNat - 0xF0) * 64 + (b.toNat - 0x80)) * 64 + (c.toNat - 0x80)) * 64 +
      (d.toNat - 0x80)).isValidChar := by
    unfold Nat.isValidChar
    omega
  simp only [String.utf8EncodeChar, toNat_val_ofNat valid]
  rw [if_neg (by omega), if_neg (by omega), if_neg (by omega), ofNat_eq_byte a (by omega),
    ofNat_eq_byte b (by omega), ofNat_eq_byte c (by omega), ofNat_eq_byte d (by omega)]

/-- Without a replacement, a sequence that is still open goes on with a byte in its range. -/
private theorem utf8DecodeFrom_open {s : Utf8State} (missing : s.needed ≠ 0) {bytes : List UInt8}
    (clean : replacementChar ∉ utf8DecodeFrom s bytes) :
    ∃ byte rest, bytes = byte :: rest ∧ (s.lower ≤ byte.toNat ∧ byte.toNat ≤ s.upper) ∧
      utf8DecodeFrom s bytes = (utf8Step s byte.toNat).2 ++ utf8DecodeFrom (utf8Step s byte.toNat).1 rest := by
  cases bytes with
  | nil => simp [utf8DecodeFrom, missing] at clean
  | cons byte rest =>
    refine ⟨byte, rest, rfl, ?_, rfl⟩
    by_contra outside
    simp [utf8DecodeFrom, utf8Step, missing, outside] at clean

private theorem utf8DecodeFrom_last {s : Utf8State} (one : s.needed = 1) {bytes : List UInt8}
    (clean : replacementChar ∉ utf8DecodeFrom s bytes) :
    ∃ byte rest, bytes = byte :: rest ∧ (s.lower ≤ byte.toNat ∧ byte.toNat ≤ s.upper) ∧
      utf8DecodeFrom s bytes = Char.ofNat (s.codePoint * 64 + (byte.toNat - 0x80)) :: utf8Decode rest := by
  obtain ⟨byte, rest, rfl, range, decoded⟩ := utf8DecodeFrom_open (by omega) clean
  refine ⟨byte, rest, rfl, range, ?_⟩
  rw [decoded, utf8Step, if_neg (by omega), if_pos range]
  simp [one, utf8Decode]

private theorem utf8DecodeFrom_more {s : Utf8State} {n : ℕ} (more : s.needed = n + 2) {bytes : List UInt8}
    (clean : replacementChar ∉ utf8DecodeFrom s bytes) :
    ∃ byte rest, bytes = byte :: rest ∧ (s.lower ≤ byte.toNat ∧ byte.toNat ≤ s.upper) ∧
      utf8DecodeFrom s bytes =
        utf8DecodeFrom { needed := n + 1, codePoint := s.codePoint * 64 + (byte.toNat - 0x80) } rest := by
  obtain ⟨byte, rest, rfl, range, decoded⟩ := utf8DecodeFrom_open (by omega) clean
  refine ⟨byte, rest, rfl, range, ?_⟩
  rw [decoded, utf8Step, if_neg (by omega), if_pos range]
  simp [more]

private theorem utf8Decode_cons_eq (byte : UInt8) (rest : List UInt8) :
    utf8Decode (byte :: rest) = (utf8Start byte.toNat).2 ++ utf8DecodeFrom (utf8Start byte.toNat).1 rest := rfl

/-- Without a replacement, one encoded character is read off the front. -/
private theorem utf8Decode_cons {byte : UInt8} {rest : List UInt8}
    (clean : replacementChar ∉ utf8Decode (byte :: rest)) :
    ∃ c tail, byte :: rest = String.utf8EncodeChar c ++ tail ∧
      utf8Decode (byte :: rest) = c :: utf8Decode tail := by
  rw [utf8Decode_cons_eq] at clean ⊢
  by_cases one : byte.toNat < 0x80
  · simp only [utf8Start, if_pos one] at clean ⊢
    refine ⟨_, rest, ?_, rfl⟩
    rw [utf8EncodeChar_one one]
    rfl
  by_cases two : 0xC2 ≤ byte.toNat ∧ byte.toNat ≤ 0xDF
  · simp only [utf8Start, if_neg one, if_pos two, List.nil_append] at clean ⊢
    obtain ⟨b, tail, rfl, second, decoded⟩ := utf8DecodeFrom_last rfl clean
    refine ⟨_, tail, ?_, decoded⟩
    rw [utf8EncodeChar_two two second]
    rfl
  by_cases three : 0xE0 ≤ byte.toNat ∧ byte.toNat ≤ 0xEF
  · simp only [utf8Start, if_neg one, if_neg two, if_pos three, List.nil_append] at clean ⊢
    obtain ⟨b, tail, rfl, second, more⟩ := utf8DecodeFrom_more rfl clean
    rw [more] at clean ⊢
    obtain ⟨c, tail, rfl, third, decoded⟩ := utf8DecodeFrom_last rfl clean
    refine ⟨_, tail, ?_, decoded⟩
    rw [utf8EncodeChar_three three second third]
    rfl
  by_cases four : 0xF0 ≤ byte.toNat ∧ byte.toNat ≤ 0xF4
  · simp only [utf8Start, if_neg one, if_neg two, if_neg three, if_pos four, List.nil_append] at clean ⊢
    obtain ⟨b, tail, rfl, second, more⟩ := utf8DecodeFrom_more rfl clean
    rw [more] at clean ⊢
    obtain ⟨c, tail, rfl, third, more⟩ := utf8DecodeFrom_more rfl clean
    rw [more] at clean ⊢
    obtain ⟨d, tail, rfl, fourth, decoded⟩ := utf8DecodeFrom_last rfl clean
    refine ⟨_, tail, ?_, decoded⟩
    rw [utf8EncodeChar_four four second third fourth]
    rfl
  · simp [utf8Start, if_neg one, if_neg two, if_neg three, if_neg four] at clean

/-- An input that decodes without a replacement character is the encoding of what it decodes to. -/
theorem eq_encode_of_not_mem_utf8Decode (bytes : List UInt8) (clean : replacementChar ∉ utf8Decode bytes) :
    bytes = (utf8Decode bytes).flatMap String.utf8EncodeChar := by
  induction size : bytes.length using Nat.strong_induction_on generalizing bytes with
  | _ n ih =>
    cases bytes with
    | nil => rfl
    | cons byte rest =>
      obtain ⟨c, tail, split, decoded⟩ := utf8Decode_cons clean
      have shorter : tail.length < n := by
        have nonempty := List.length_pos_iff.mpr (String.utf8EncodeChar_ne_nil (c := c))
        have sizes := congrArg List.length split
        rw [List.length_append] at sizes
        omega
      have tailClean : replacementChar ∉ utf8Decode tail := by
        rw [decoded] at clean
        exact fun member => clean (List.mem_cons_of_mem c member)
      rw [decoded, List.flatMap_cons, ← ih _ shorter tail tailClean rfl]
      exact split

/-- Whatever is not the encoding of a text shows a replacement character. -/
theorem replacementChar_mem_of_not_validUtf8 {bytes : List UInt8} (invalid : ¬ ValidUtf8 bytes) :
    replacementChar ∈ utf8Decode bytes := by
  by_contra clean
  exact invalid ⟨_, eq_encode_of_not_mem_utf8Decode bytes clean⟩

/-- The largest bytes occur in no encoding. -/
theorem ValidUtf8.byte_lt {bytes : List UInt8} (valid : ValidUtf8 bytes) {byte : UInt8} (member : byte ∈ bytes) :
    byte.toNat < 0xF8 := by
  obtain ⟨text, rfl⟩ := valid
  obtain ⟨c, -, inside⟩ := List.mem_flatMap.mp member
  unfold String.utf8EncodeChar at inside
  dsimp only at inside
  split_ifs at inside <;> simp only [List.mem_cons, List.not_mem_nil, or_false] at inside
  · rw [inside, UInt8.toNat_ofNat']
    omega
  · rcases inside with rfl | rfl <;> rw [UInt8.toNat_ofNat'] <;> omega
  · rcases inside with rfl | rfl | rfl <;> rw [UInt8.toNat_ofNat'] <;> omega
  · rcases inside with rfl | rfl | rfl | rfl <;> rw [UInt8.toNat_ofNat'] <;> omega

private theorem utf8Start_lower (byte : ℕ) : 0 < (utf8Start byte).1.lower := by
  unfold utf8Start
  split_ifs <;> norm_num

private theorem utf8Step_lower (s : Utf8State) (byte : ℕ) : 0 < (utf8Step s byte).1.lower := by
  unfold utf8Step
  split_ifs
  · exact utf8Start_lower byte
  · norm_num
  · norm_num
  · exact utf8Start_lower byte

private theorem utf8DecodeFrom_concat_zero (bytes : List UInt8) (s : Utf8State) (positive : 0 < s.lower) :
    utf8DecodeFrom s (bytes ++ [0]) = utf8DecodeFrom s bytes ++ ['\x00'] := by
  induction bytes generalizing s with
  | nil =>
    change (utf8Step s 0).2 ++ utf8DecodeFrom (utf8Step s 0).1 [] = _
    by_cases done : s.needed = 0
    · simp [utf8Step, utf8Start, utf8DecodeFrom, done]
    · simp [utf8Step, utf8Start, utf8DecodeFrom, done, positive.ne']
  | cons byte rest ih =>
    change (utf8Step s byte.toNat).2 ++ utf8DecodeFrom (utf8Step s byte.toNat).1 (rest ++ [0]) = _
    rw [ih _ (utf8Step_lower s byte.toNat), ← List.append_assoc]
    rfl

/-- A zero byte ends whatever sequence is open and decodes to a zero character. -/
theorem utf8Decode_concat_zero (bytes : List UInt8) : utf8Decode (bytes ++ [0]) = utf8Decode bytes ++ ['\x00'] :=
  utf8DecodeFrom_concat_zero bytes {} (by decide)

/-- No byte of a longer sequence is zero. -/
private theorem eq_nil_of_utf8EncodeChar_concat_zero {c : Char} {front : List UInt8}
    (encoded : String.utf8EncodeChar c = front ++ [0]) : front = [] := by
  have continuation (n : ℕ) : UInt8.ofNat (n % 0x40 + 0x80) ≠ 0 := by
    intro zero
    have value := congrArg UInt8.toNat zero
    rw [UInt8.toNat_ofNat'] at value
    change _ = 0 at value
    omega
  have last := congrArg List.getLast? encoded
  rw [List.getLast?_concat] at last
  unfold String.utf8EncodeChar at encoded last
  dsimp only at encoded last
  split_ifs at encoded last
  · have sizes := congrArg List.length encoded
    rw [List.length_append] at sizes
    exact List.length_eq_zero_iff.mp (by simpa using sizes)
  all_goals exact absurd (Option.some.inj last) (continuation _)

theorem ValidUtf8.of_concat_zero {bytes : List UInt8} (valid : ValidUtf8 (bytes ++ [0])) : ValidUtf8 bytes := by
  obtain ⟨text, encoded⟩ := valid
  rcases List.eq_nil_or_concat' text with rfl | ⟨front, c, rfl⟩
  · simp at encoded
  · rcases List.eq_nil_or_concat' (String.utf8EncodeChar c) with none | ⟨start, byte, last⟩
    · exact absurd none String.utf8EncodeChar_ne_nil
    · rw [List.flatMap_append, List.flatMap_singleton, last, ← List.append_assoc] at encoded
      obtain ⟨whole, zero⟩ := List.append_inj' encoded rfl
      obtain rfl : 0 = byte := List.singleton_inj.mp zero
      rw [eq_nil_of_utf8EncodeChar_concat_zero last, List.append_nil] at whole
      exact ⟨front, whole⟩

end GestureSuite.Text
