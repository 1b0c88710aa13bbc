import GestureSuite.Text.Utf8

/-! # Texts of UTF-16 code units

A string of a runtime that stores UTF-16 code units need not be well formed: a surrogate may stand
without its partner. An encoder to UTF-8 writes the replacement character for it, so what a reader of
the file gets is `utf16Decode` of the units. Units outside the surrogate range are passed through and
cut the text into independent pieces.
-/

namespace GestureSuite.Text

def isHighSurrogate (unit : UInt16) : Bool := 0xD800 ≤ unit.toNat && unit.toNat < 0xDC00

def isLowSurrogate (unit : UInt16) : Bool := 0xDC00 ≤ unit.toNat && unit.toNat < 0xE000

def isSurrogate (unit : UInt16) : Bool := isHighSurrogate unit || isLowSurrogate unit

def surrogatePair (high low : UInt16) : Char :=
  Char.ofNat (0x10000 + (high.toNat - 0xD800) * 0x400 + (low.toNat - 0xDC00))

/-- Decoding behind a high surrogate that still waits for its partner, or behind none. -/
def utf16DecodeFrom : Option UInt16 → List UInt16 → List Char
  | none, [] => []
  | some _, [] => [replacementChar]
  | none, unit :: rest =>
    if isHighSurrogate unit then utf16DecodeFrom (some unit) rest
    else if isLowSurrogate unit then replacementChar :: utf16DecodeFrom none rest
    else Char.ofNat unit.toNat :: utf16DecodeFrom none rest
  | some high, unit :: rest =>
    if isHighSurrogate unit then replacementChar :: utf16DecodeFrom (some unit) rest
    else if isLowSurrogate unit then surrogatePair high unit :: utf16DecodeFrom none rest
    else replacementChar :: Char.ofNat unit.toNat :: utf16DecodeFrom none rest

def utf16Decode (units : List UInt16) : List Char := utf16DecodeFrom none units

/-- The units of a character: one, or a surrogate pair. -/
def utf16Char (c : Char) : List UInt16 :=
  if c.toNat < 0x10000 then [UInt16.ofNat c.toNat]
  else [UInt16.ofNat (0xD800 + (c.toNat - 0x10000) / 0x400), UInt16.ofNat (0xDC00 + (c.toNat - 0x10000) % 0x400)]

def utf16Encode (text : List Char) : List UInt16 := text.flatMap utf16Char

theorem utf16Encode_append (front rest : List Char) :
    utf16Encode (front ++ rest) = utf16Encode front ++ utf16Encode rest :=
  List.flatMap_append

theorem utf16Encode_cons (c : Char) (text : List Char) : utf16Encode (c :: text) = utf16Char c ++ utf16Encode text :=
  rfl

theorem utf16DecodeFrom_cons_of_not_isSurrogate {unit : UInt16} (plain : isSurrogate unit = false)
    (pending : Option UInt16) (rest : List UInt16) :
    utf16DecodeFrom pending (unit :: rest) =
      utf16DecodeFrom pending [] ++ Char.ofNat unit.toNat :: utf16DecodeFrom none rest := by
  obtain ⟨notHigh, notLow⟩ := Bool.or_eq_false_iff.mp plain
  cases pending <;> simp [utf16DecodeFrom, notHigh, notLow]

private theorem utf16DecodeFrom_pair {high low : UInt16} (isHigh : isHighSurrogate high = true)
    (isLow : isLowSurrogate low = true) (rest : List UInt16) :
    utf16DecodeFrom none (high :: low :: rest) = surrogatePair high low :: utf16DecodeFrom none rest := by
  have notHigh : isHighSurrogate low = false := by
    simp only [isLowSurrogate, isHighSurrogate, Bool.and_eq_true, decide_eq_true_eq, Bool.and_eq_false_iff,
      decide_eq_false_iff_not] at isLow ⊢
    omega
  simp [utf16DecodeFrom, isHigh, isLow, notHigh]

/-- A character of the basic plane is no surrogate, so its one unit is decoded by itself. -/
private theorem utf16DecodeFrom_short {c : Char} (short : c.toNat < 0x10000) (rest : List UInt16) :
    utf16DecodeFrom none (UInt16.ofNat c.toNat :: rest) = c :: utf16DecodeFrom none rest := by
  have valid : c.toNat < 0xD800 ∨ 0xDFFF < c.toNat ∧ c.toNat < 0x110000 := c.valid
  have unit : (UInt16.ofNat c.toNat).toNat = c.toNat := by
    rw [UInt16.toNat_ofNat']
    omega
  have plain : isSurrogate (UInt16.ofNat c.toNat) = false := by
    simp only [isSurrogate, isHighSurrogate, isLowSurrogate, unit, Bool.or_eq_false_iff, Bool.and_eq_false_iff,
      decide_eq_false_iff_not]
    omega
  rw [utf16DecodeFrom_cons_of_not_isSurrogate plain, unit, Char.ofNat_toNat]
  rfl

/-- The two surrogates of a character beyond the basic plane are put together again. -/
private theorem utf16DecodeFrom_long {high low : UInt16} {c : Char} (long : 0x10000 ≤ c.toNat)
    (upper : high.toNat = 0xD800 + (c.toNat - 0x10000) / 0x400)
    (lower : low.toNat = 0xDC00 + (c.toNat - 0x10000) % 0x400)
    (rest : List UInt16) : utf16DecodeFrom none (high :: low :: rest) = c :: utf16DecodeFrom none rest := by
  have valid : c.toNat < 0xD800 ∨ 0xDFFF < c.toNat ∧ c.toNat < 0x110000 := c.valid
  have isHigh : isHighSurrogate high = true := by
    simp only [isHighSurrogate, upper, Bool.and_eq_true, decide_eq_true_eq]
    omega
  have isLow : isLowSurrogate low = true := by
    simp only [isLowSurrogate, lower, Bool.and_eq_true, decide_eq_true_eq]
    omega
  have value : 0x10000 + (high.toNat - 0xD800) * 0x400 + (low.toNat - 0xDC00) = c.toNat := by
    rw [upper, lower]
    omega
  rw [utf16DecodeFrom_pair isHigh isLow, surrogatePair, value, Char.ofNat_toNat]

/-- Every text of characters is its own decoding. -/
theorem utf16Decode_utf16Encode (text : List Char) : utf16Decode (utf16Encode text) = text := by
  induction text with
  | nil => rfl
  | cons c rest ih =>
    have valid : c.toNat < 0xD800 ∨ 0xDFFF < c.toNat ∧ c.toNat < 0x110000 := c.valid
    rw [utf16Encode_cons, utf16Char]
    split
    · next short => exact (utf16DecodeFrom_short short _).trans (congrArg (c :: ·) ih)
    · next long =>
      refine (utf16DecodeFrom_long (by omega) ?_ ?_ _).trans (congrArg (c :: ·) ih)
      · rw [UInt16.toNat_ofNat']
        omega
      · rw [UInt16.toNat_ofNat']
        omega

/-- A unit that is no surrogate separates the decodings of what stands on its two sides. -/
theorem utf16DecodeFrom_append_cons {unit : UInt16} (plain : isSurrogate unit = false)
    (pending : Option UInt16) (front rest : List UInt16) :
    utf16DecodeFrom pending (front ++ unit :: rest) =
      utf16DecodeFrom pending front ++ Char.ofNat unit.toNat :: utf16DecodeFrom none rest := by
  induction front generalizing pending with
  | nil => exact utf16DecodeFrom_cons_of_not_isSurrogate plain pending rest
  | cons first front ih =>
    rw [List.cons_append]
    cases pending <;> simp only [utf16DecodeFrom] <;> split_ifs <;> simp only [ih, List.cons_append]

end GestureSuite.Text
