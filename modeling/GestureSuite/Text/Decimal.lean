import Mathlib.Data.List.TakeWhile
import Mathlib.Data.Nat.Digits.Defs
import Mathlib.Tactic

/-! # Decimal integers as text

Text is a list of characters. Natural numbers are printed by `Nat.toDigits`; this module adds the sign,
and says which characters a printed number has, how many, and how a scan over digits reads it.
-/

namespace GestureSuite.Text

/-- The sign and the digits of an integer, as `%d` writes it. -/
def printInt (z : ℤ) : List Char :=
  if z < 0 then '-' :: Nat.toDigits 10 z.natAbs else Nat.toDigits 10 z.natAbs

/-- An optional leading sign; `true` when it is a minus. -/
def parseSign : List Char → Bool × List Char
  | '-' :: rest => (true, rest)
  | '+' :: rest => (false, rest)
  | text => (false, text)

theorem toNat_of_isDigit {c : Char} (digit : c.isDigit = true) : 48 ≤ c.toNat ∧ c.toNat ≤ 57 := by
  simpa [Char.isDigit, UInt32.le_iff_toNat_le] using digit

theorem isDigit_of_mem_toDigits_ten {n : ℕ} {c : Char} (member : c ∈ Nat.toDigits 10 n) : c.isDigit = true :=
  Nat.isDigit_of_mem_toDigits (by decide) (by decide) member

theorem mem_printInt {z : ℤ} {c : Char} (member : c ∈ printInt z) : c = '-' ∨ c.isDigit = true := by
  rw [printInt] at member
  split_ifs at member
  · rcases List.mem_cons.mp member with sign | digit
    · exact .inl sign
    · exact .inr (isDigit_of_mem_toDigits_ten digit)
  · exact .inr (isDigit_of_mem_toDigits_ten member)

theorem printInt_eq_signed (z : ℤ) :
    printInt z = (if decide (z < 0) then ['-'] else []) ++ Nat.toDigits 10 z.natAbs := by
  rw [printInt]
  by_cases negative : z < 0 <;> simp [negative]

theorem printInt_ne_nil (z : ℤ) : printInt z ≠ [] := by
  rw [printInt]
  split_ifs
  · simp
  · exact Nat.toDigits_ne_nil

/-- A minus sign in front of a digit is split off, and nothing is split off a digit. -/
theorem parseSign_signed (negative : Bool) {text : List Char} (digit : ∃ c ∈ text.head?, c.isDigit = true) :
    parseSign ((if negative then ['-'] else []) ++ text) = (negative, text) := by
  obtain ⟨c, first, digit⟩ := digit
  obtain ⟨rest, rfl⟩ := List.head?_eq_some_iff.mp first
  cases negative with
  | true => rfl
  | false =>
    change parseSign (c :: rest) = (false, c :: rest)
    simp only [parseSign]
    split
    · next same => cases same; simp [Char.isDigit] at digit
    · next same => cases same; simp [Char.isDigit] at digit
    · rfl

theorem head?_toDigits_isDigit (n : ℕ) : ∃ c ∈ (Nat.toDigits 10 n).head?, c.isDigit = true := by
  cases digits : Nat.toDigits 10 n with
  | nil => exact absurd digits Nat.toDigits_ne_nil
  | cons c rest => exact ⟨c, rfl, isDigit_of_mem_toDigits_ten (by rw [digits]; exact List.mem_cons_self)⟩

theorem parseSign_printInt (z : ℤ) :
    parseSign (printInt z) = (decide (z < 0), Nat.toDigits 10 z.natAbs) := by
  rw [printInt_eq_signed, parseSign_signed _ (head?_toDigits_isDigit z.natAbs)]

/-- An integer whose magnitude has at most `k` digits is printed in at most `k + 1` characters. -/
theorem length_printInt_le {z : ℤ} {k : ℕ} (positive : 0 < k) (bound : z.natAbs < 10 ^ k) :
    (printInt z).length ≤ k + 1 := by
  have digits : (Nat.toDigits 10 z.natAbs).length ≤ k :=
    (Nat.length_toDigits_le_iff (by decide) positive).mpr bound
  rw [printInt]
  split_ifs
  · simpa using digits
  · omega

theorem takeWhile_toDigits (n : ℕ) : (Nat.toDigits 10 n).takeWhile Char.isDigit = Nat.toDigits 10 n :=
  List.takeWhile_eq_self_iff.mpr fun _ member => isDigit_of_mem_toDigits_ten member

theorem dropWhile_toDigits (n : ℕ) : (Nat.toDigits 10 n).dropWhile Char.isDigit = [] :=
  List.dropWhile_eq_nil_iff.mpr fun _ member => isDigit_of_mem_toDigits_ten member

/-- The digits in front of a character that is none are the printed number. -/
theorem takeWhile_toDigits_append (n : ℕ) {c : Char} (stop : c.isDigit = false) (rest : List Char) :
    (Nat.toDigits 10 n ++ c :: rest).takeWhile Char.isDigit = Nat.toDigits 10 n ∧
      (Nat.toDigits 10 n ++ c :: rest).dropWhile Char.isDigit = c :: rest := by
  have digits : ∀ d ∈ Nat.toDigits 10 n, d.isDigit = true := fun _ member => isDigit_of_mem_toDigits_ten member
  constructor
  · rw [List.takeWhile_append_of_pos digits, List.takeWhile_cons_of_neg (by simp [stop]), List.append_nil]
  · rw [List.dropWhile_append_of_pos digits, List.dropWhile_cons_of_neg (by simp [stop])]

/-- A numeral of `k` digits is below `10 ^ k`. -/
theorem ofDigitChars_lt {digits : List Char} (all : ∀ c ∈ digits, c.isDigit = true) (start : ℕ) :
    Nat.ofDigitChars 10 digits start < (start + 1) * 10 ^ digits.length := by
  induction digits generalizing start with
  | nil => simp
  | cons c rest ih =>
    have digit := toNat_of_isDigit (all c List.mem_cons_self)
    have tail := ih (fun d later => all d (List.mem_cons_of_mem c later)) (10 * start + (c.toNat - '0'.toNat))
    have zero : '0'.toNat = 48 := rfl
    rw [Nat.ofDigitChars_cons, List.length_cons, pow_succ']
    calc Nat.ofDigitChars 10 rest (10 * start + (c.toNat - '0'.toNat))
      _ < (10 * start + (c.toNat - '0'.toNat) + 1) * 10 ^ rest.length := tail
      _ ≤ ((start + 1) * 10) * 10 ^ rest.length := Nat.mul_le_mul_right _ (by omega)
      _ = (start + 1) * (10 * 10 ^ rest.length) := by rw [mul_assoc]

end GestureSuite.Text
