import TwoPass.Text.Bytes

/-!
# Numerals — decimal, `0x` and `0b` numbers of bounded width

The base marks are lower case; digits are of either case.  There is no sign and no
digit separator.  Digits are read from left to right, and the first that makes the
value too wide ends the reading, whatever stands behind it.
-/

namespace TwoPass

namespace Numeral

/-- Why a text is no numeral of the wanted width. -/
inductive Failure where
  | malformed
  | tooWide
  deriving DecidableEq, Repr

/-- The value of a digit: `0`–`9`, then the letters of either case from ten on. -/
def digitValue? (b : UInt8) : Option Nat :=
  if Bytes.isDigit b then some (b - '0'.toUInt8).toNat
  else if 'a'.toUInt8 ≤ b && b ≤ 'z'.toUInt8 then some ((b - 'a'.toUInt8).toNat + 10)
  else if 'A'.toUInt8 ≤ b && b ≤ 'Z'.toUInt8 then some ((b - 'A'.toUInt8).toNat + 10)
  else none

/-- Reads digits behind a value already read; every value on the way stays below the
    limit. -/
def readDigits (base limit : Nat) : Nat → Bytes → Except Failure Nat
  | n, [] => .ok n
  | n, b :: rest =>
    match digitValue? b with
    | none => .error .malformed
    | some d =>
      if base ≤ d then .error .malformed
      else if limit ≤ n * base + d then .error .tooWide
      else readDigits base limit (n * base + d) rest

/-- The base that a word is written in, and its digits. -/
def splitBase (word : Bytes) : Nat × Bytes :=
  match word with
  | a :: b :: rest =>
    if a == '0'.toUInt8 && b == 'x'.toUInt8 then (16, rest)
    else if a == '0'.toUInt8 && b == 'b'.toUInt8 then (2, rest)
    else (10, word)
  | _ => (10, word)

/-- The number of bits that a width stands for: zero means the full 64, and there is
    no number of a negative width or of more than 64 bits. -/
def bits? (width : Int) : Option Nat :=
  if width = 0 then some 64
  else if 0 < width && width ≤ 64 then some width.toNat
  else none

/-- The value of a numeral that fits in a number of bits. -/
def read (word : Bytes) (width : Int) : Except Failure Nat :=
  match splitBase word, bits? width with
  | (_, []), _ => .error .malformed
  | _, none => .error .malformed
  | (base, digits), some bits => readDigits base (Nat.pow 2 bits) 0 digits

end Numeral

end TwoPass
