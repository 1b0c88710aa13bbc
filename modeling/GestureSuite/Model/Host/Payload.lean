import Mathlib.Data.List.DropRight
import GestureSuite.Text.Decimal
import GestureSuite.Text.Utf8

/-! # How the host reads a characteristic

`bufferToUtf8OrHex` makes text of the bytes of a characteristic and `tryParseImuRaw` makes a sample of
the text. Integers are read the way `int.TryParse` reads them with `NumberStyles.Integer` and the
invariant culture.
-/

namespace GestureSuite.Host

open Text

/-- `char.IsWhiteSpace`. -/
def isWhiteSpace (c : Char) : Bool :=
  let n := c.toNat
  (0x09 ≤ n && n ≤ 0x0D) || n = 0x20 || n = 0x85 || n = 0xA0 || n = 0x1680 || (0x2000 ≤ n && n ≤ 0x200A) ||
    n = 0x2028 || n = 0x2029 || n = 0x202F || n = 0x205F || n = 0x3000

def isNullOrWhiteSpace (text : List Char) : Bool := text.all isWhiteSpace

/-- `text.Trim(...)` with a set of characters. -/
def trim (set : List Char) (text : List Char) : List Char :=
  (text.dropWhile set.contains).rdropWhile set.contains

/-- Two upper-case hexadecimal digits. -/
def hexByte (byte : UInt8) : List Char :=
  [Nat.digitChar (byte.toNat / 16), Nat.digitChar (byte.toNat % 16)].map Char.toUpper

def bufferToUtf8OrHex (data : List UInt8) : List Char :=
  if data.isEmpty then "<empty>".toList
  else
    let text := utf8Decode data
    if !isNullOrWhiteSpace text then trim ['\x00', '\r', '\n'] text
    else "HEX:".toList ++ data.flatMap hexByte

/-- White space as the number parser sees it. -/
def isWhite (c : Char) : Bool := c = ' ' || (0x09 ≤ c.toNat && c.toNat ≤ 0x0D)

/-- Leading white space, a sign, digits, trailing white space and trailing zero characters; the value has
to fit 32 bits. -/
def intTryParse (text : List Char) : Option ℤ :=
  let (negative, body) := parseSign (text.dropWhile isWhite)
  let digits := body.takeWhile Char.isDigit
  let trailing := (body.dropWhile Char.isDigit).dropWhile isWhite
  if digits.isEmpty || !trailing.all (· = '\x00') then none
  else
    let magnitude := Nat.ofDigitChars 10 digits 0
    let value : ℤ := if negative then -magnitude else magnitude
    if -2 ^ 31 ≤ value ∧ value < 2 ^ 31 then some value else none

structure ImuRawSample where
  ax : ℤ
  ay : ℤ
  az : ℤ
  gx : ℤ
  gy : ℤ
  gz : ℤ
  temp : ℤ
deriving DecidableEq, Repr

/-- `OrdinalIgnoreCase`, exact for texts that are compared with ASCII letters. -/
def equalsIgnoreCase (a b : List Char) : Bool := a.map Char.toUpper = b.map Char.toUpper

def tryParseImuRaw (payload : List Char) : Option ImuRawSample :=
  let parts := payload.splitOn ','
  if parts.length < 9 || !equalsIgnoreCase (parts.getD 0 []) ['I', 'M', 'U'] then none
  else do
    let ax ← intTryParse (parts.getD 2 [])
    let ay ← intTryParse (parts.getD 3 [])
    let az ← intTryParse (parts.getD 4 [])
    let gx ← intTryParse (parts.getD 5 [])
    let gy ← intTryParse (parts.getD 6 [])
    let gz ← intTryParse (parts.getD 7 [])
    let temp ← intTryParse (parts.getD 8 [])
    return { ax, ay, az, gx, gy, gz, temp }

end GestureSuite.Host
