import Mathlib.Data.NNRat.Defs
import GestureSuite.Text.Decimal

/-! # Floating-point numbers as text

A number is a sign and an exact magnitude, an infinity, or not a number; rounding to the format's
precision is left to the user of the module. `printFixed` writes a number of units of the last decimal
place, and `floatParse` reads a numeral the way `float` does: underscores between digits, a sign, digits
with an optional point, an optional exponent, or one of the names of the special values. Digits are ASCII.
-/

namespace GestureSuite.Text

inductive Double where
  | finite (negative : Bool) (magnitude : ℚ≥0)
  | infinity (negative : Bool)
  | nan
deriving DecidableEq

/-- Decimal digits filled up with zeros on the left. -/
def padDigits (width n : ℕ) : List Char :=
  List.replicate (width - (Nat.toDigits 10 n).length) '0' ++ Nat.toDigits 10 n

/-- `scaled` units of the last of so many decimal places, with all the places written. -/
def printFixed (places : ℕ) (negative : Bool) (scaled : ℕ) : List Char :=
  (if negative then ['-'] else []) ++
    (Nat.toDigits 10 (scaled / 10 ^ places) ++ '.' :: padDigits places (scaled % 10 ^ places))

/-- The value of so many units of the last decimal place. -/
def fixedValue (places scaled : ℕ) : ℚ≥0 := scaled / 10 ^ places

/-- Underscores are dropped where a digit stands on either side, and refused elsewhere. -/
def dropUnderscores : Char → List Char → Option (List Char)
  | previous, [] => if previous = '_' then none else some []
  | previous, c :: rest =>
    if c = '_' then (if previous.isDigit then dropUnderscores c rest else none)
    else if previous = '_' ∧ !c.isDigit then none
    else (c :: ·) <$> dropUnderscores c rest

def parseExponent : List Char → Option ℤ
  | [] => some 0
  | c :: rest =>
    if c = 'e' ∨ c = 'E' then
      let (negative, digits) := parseSign rest
      if digits.isEmpty || !digits.all Char.isDigit then none
      else
        let magnitude : ℤ := Nat.ofDigitChars 10 digits 0
        some (if negative then -magnitude else magnitude)
    else none

/-- What stands behind the point, and behind that. -/
def parseFraction : List Char → List Char × List Char
  | '.' :: rest => (rest.takeWhile Char.isDigit, rest.dropWhile Char.isDigit)
  | text => ([], text)

def parseMagnitude (text : List Char) : Option ℚ≥0 :=
  let whole := text.takeWhile Char.isDigit
  let (fraction, rest) := parseFraction (text.dropWhile Char.isDigit)
  if whole.isEmpty && fraction.isEmpty then none
  else do
    let exponent ← parseExponent rest
    return Nat.ofDigitChars 10 (whole ++ fraction) 0 / 10 ^ fraction.length * 10 ^ exponent

def parseSpecial (negative : Bool) (text : List Char) : Option Double :=
  let name := text.map Char.toLower
  if name = ['i', 'n', 'f'] ∨ name = ['i', 'n', 'f', 'i', 'n', 'i', 't', 'y'] then some (.infinity negative)
  else if name = ['n', 'a', 'n'] then some .nan
  else none

def floatParse (text : List Char) : Option Double := do
  let (negative, body) := parseSign (← dropUnderscores '\x00' text)
  (Double.finite negative <$> parseMagnitude body) <|> parseSpecial negative body

theorem dropUnderscores_eq_some {previous : Char} {text : List Char} (before : previous ≠ '_') (absent : '_' ∉ text) :
    dropUnderscores previous text = some text := by
  induction text generalizing previous with
  | nil => simp [dropUnderscores, before]
  | cons c rest ih =>
    obtain ⟨notFirst, notLater⟩ := not_or.mp (mt List.mem_cons.mpr absent)
    simp [dropUnderscores, before, Ne.symm notFirst, ih (Ne.symm notFirst) notLater]

theorem isDigit_of_mem_padDigits {width n : ℕ} {c : Char} (member : c ∈ padDigits width n) : c.isDigit = true := by
  rcases List.mem_append.mp member with zero | digit
  · rw [List.eq_of_mem_replicate zero]
    decide
  · exact isDigit_of_mem_toDigits_ten digit

theorem length_padDigits {width n : ℕ} (positive : 0 < width) (bound : n < 10 ^ width) :
    (padDigits width n).length = width := by
  have digits : (Nat.toDigits 10 n).length ≤ width := (Nat.length_toDigits_le_iff (by decide) positive).mpr bound
  simp only [padDigits, List.length_append, List.length_replicate]
  omega

theorem ofDigitChars_padDigits (width n : ℕ) : Nat.ofDigitChars 10 (padDigits width n) 0 = n := by
  rw [padDigits, Nat.ofDigitChars_append, Nat.ofDigitChars_replicate_zero, mul_zero, Nat.ofDigitChars_ten_toDigits]

theorem parseMagnitude_toDigits (n : ℕ) : parseMagnitude (Nat.toDigits 10 n) = some n := by
  rw [parseMagnitude]
  rw [takeWhile_toDigits, dropWhile_toDigits]
  simp [parseFraction, parseExponent, Nat.toDigits_ne_nil, Nat.ofDigitChars_ten_toDigits]

theorem parseMagnitude_fixed {places : ℕ} (positive : 0 < places) (scaled : ℕ) :
    parseMagnitude (Nat.toDigits 10 (scaled / 10 ^ places) ++ '.' :: padDigits places (scaled % 10 ^ places)) =
      some (fixedValue places scaled) := by
  obtain ⟨whole, afterWhole⟩ := takeWhile_toDigits_append (scaled / 10 ^ places) (c := '.') (by decide)
    (padDigits places (scaled % 10 ^ places))
  have digits : ∀ c ∈ padDigits places (scaled % 10 ^ places), c.isDigit = true := fun _ => isDigit_of_mem_padDigits
  have width := length_padDigits positive (Nat.mod_lt scaled (Nat.pow_pos (by decide : 0 < 10)))
  have value : Nat.ofDigitChars 10
      (Nat.toDigits 10 (scaled / 10 ^ places) ++ padDigits places (scaled % 10 ^ places)) 0 = scaled := by
    rw [Nat.ofDigitChars_append, Nat.ofDigitChars_ten_toDigits, Nat.ofDigitChars_eq_ofDigitChars_zero, width,
      ofDigitChars_padDigits, Nat.div_add_mod]
  rw [parseMagnitude]
  rw [whole, afterWhole, parseFraction, List.takeWhile_eq_self_iff.mpr digits, List.dropWhile_eq_nil_iff.mpr digits]
  simp [Nat.toDigits_ne_nil, parseExponent, value, width, fixedValue]

/-- A signed numeral is read as its sign and magnitude. -/
theorem floatParse_signed (negative : Bool) {text : List Char} {magnitude : ℚ≥0}
    (digit : ∃ c ∈ text.head?, c.isDigit = true) (absent : '_' ∉ text) (value : parseMagnitude text = some magnitude) :
    floatParse ((if negative then ['-'] else []) ++ text) = some (.finite negative magnitude) := by
  have noUnderscore : '_' ∉ (if negative then ['-'] else []) ++ text := by
    cases negative <;> simp [absent]
  have kept : dropUnderscores '\x00' _ = some _ := dropUnderscores_eq_some (by decide) noUnderscore
  rw [floatParse]
  rw [kept, Option.bind_eq_bind, Option.bind_some, parseSign_signed negative digit]
  dsimp only
  rw [value]
  rfl

private theorem underscore_not_mem {text : List Char} (digits : ∀ c ∈ text, c.isDigit = true) : '_' ∉ text :=
  fun member => absurd (digits '_' member) (by decide)

/-- A printed integer is read as its value. -/
theorem floatParse_printInt (z : ℤ) : floatParse (printInt z) = some (.finite (decide (z < 0)) z.natAbs) := by
  rw [printInt_eq_signed]
  exact floatParse_signed _ (head?_toDigits_isDigit _) (underscore_not_mem fun _ => isDigit_of_mem_toDigits_ten)
    (parseMagnitude_toDigits _)

/-- A number in fixed notation is read as the value of its digits. -/
theorem floatParse_printFixed {places : ℕ} (positive : 0 < places) (negative : Bool) (scaled : ℕ) :
    floatParse (printFixed places negative scaled) = some (.finite negative (fixedValue places scaled)) := by
  refine floatParse_signed negative ?_ ?_ (parseMagnitude_fixed positive scaled)
  · obtain ⟨c, first, digit⟩ := head?_toDigits_isDigit (scaled / 10 ^ places)
    exact ⟨c, by rw [List.head?_append_of_ne_nil _ Nat.toDigits_ne_nil]; exact first, digit⟩
  · rw [List.mem_append, List.mem_cons]
    rintro (whole | point | fraction)
    · exact underscore_not_mem (fun _ => isDigit_of_mem_toDigits_ten) whole
    · exact absurd point (by decide)
    · exact underscore_not_mem (fun _ => isDigit_of_mem_padDigits) fraction

example : floatParse "-1_2.50e1".toList = some (.finite true 125) := by decide +kernel

end GestureSuite.Text
