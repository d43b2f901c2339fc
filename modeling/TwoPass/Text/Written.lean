import TwoPass.Text.Numeral
import TwoPass.Text.Ratio

/-!
# Written numbers — digits with a point and an exponent

A decimal number may have an exponent of ten behind an `e`.  A hexadecimal one has a `0x` in
front and an exponent of two behind a `p`, which it cannot do without.  Marks and digits are
of either case.  Where underscores are allowed they stand between two digits, or behind the
`0x`.
-/

namespace TwoPass

/-- A number as its digits and the power of ten that its last digit counts. -/
structure Decimal where
  digits : Nat
  exponent : Int
  deriving DecidableEq, Repr

/-- The parts of a number: the value of all its digits, how many of them stand behind the
    point, and the exponent. -/
structure Written where
  digits : Nat
  places : Nat
  exponent : Option Int
  deriving DecidableEq, Repr

namespace Written

-- ── Parts ───────────────────────────────────────────────────────────────────────

/-- Whether a byte is a digit of a base. -/
def isDigitOf (base : Nat) (b : UInt8) : Bool := (Numeral.digitValue? b).any (· < base)

/-- The value of digits. -/
def valueOf (base : Nat) (s : Bytes) : Nat :=
  s.foldl (fun n b => n * base + (Numeral.digitValue? b).getD 0) 0

/-- The value of the digits of an exponent.  From ten thousand on no more digits count. -/
def exponentOf (digits : List Nat) : Nat :=
  digits.foldl (fun e d => if e < 10000 then e * 10 + d else e) 0

/-- The text without a sign in front, and whether the sign was a minus. -/
def splitSign (s : Bytes) : Bool × Bytes :=
  match s with
  | b :: rest =>
    if b == '+'.toUInt8 then (false, rest)
    else if b == '-'.toUInt8 then (true, rest)
    else (false, s)
  | [] => (false, [])

/-- The exponent behind its mark, a lower-case letter.  It may be missing with its mark. -/
def exponent? (mark : UInt8) (s : Bytes) : Option (Option Int) :=
  match s with
  | [] => some none
  | b :: rest =>
    let (negative, digits) := splitSign rest
    let value : Int := exponentOf (digits.map fun d => (d - '0'.toUInt8).toNat)
    if (b == mark || b + 32 == mark) && !digits.isEmpty && digits.all Bytes.isDigit then
      some (some (if negative then -value else value))
    else none

/-- The parts of a number without a sign. -/
def read? (base : Nat) (mark : UInt8) (s : Bytes) : Option Written := do
  let whole := s.takeWhile (isDigitOf base)
  let rest := s.dropWhile (isDigitOf base)
  let isPoint := rest.head? == some '.'.toUInt8
  let fraction := if isPoint then (rest.drop 1).takeWhile (isDigitOf base) else []
  let exponent ← exponent? mark (if isPoint then (rest.drop 1).dropWhile (isDigitOf base) else rest)
  if whole.isEmpty && fraction.isEmpty then none
  else return ⟨valueOf base (whole ++ fraction), fraction.length, exponent⟩

-- ── Underscores ─────────────────────────────────────────────────────────────────

/-- Whether every underscore of a text stands between two digits. -/
def separatesDigits (base : Nat) : (behindDigit : Bool) → Bytes → Bool
  | _, [] => true
  | behindDigit, b :: rest =>
    if b == '_'.toUInt8 then
      behindDigit && rest.head?.any (isDigitOf base) && separatesDigits base false rest
    else separatesDigits base (isDigitOf base b) rest

/-- The text without its underscores. -/
def withoutUnderscores (s : Bytes) : Bytes := s.filter (· != '_'.toUInt8)

end Written

-- ── Decimal numbers ─────────────────────────────────────────────────────────────

namespace Decimal

/-- The binary number nearest to a decimal one, unless that is too large.  Exponents far
    beyond those of any binary number are not worked out. -/
def nearest (p : Precision) (d : Decimal) : Option BinaryNumber :=
  let size : Int := (Bytes.digits 10 d.digits).length
  if d.digits = 0 || d.exponent + size < -400 then some ⟨0, p.least⟩
  else if 400 < d.exponent + size then none
  else (Ratio.scaled d.digits 10 d.exponent).nearest p

/-- A number without a sign, with or without a fraction and an exponent. -/
def read? (s : Bytes) : Option Decimal :=
  (Written.read? 10 'e'.toUInt8 s).map fun w => ⟨w.digits, w.exponent.getD 0 - w.places⟩

/-- A number without a sign that may have underscores between its digits. -/
def readSeparated? (s : Bytes) : Option Decimal :=
  if Written.separatesDigits 10 false s then read? (Written.withoutUnderscores s) else none

end Decimal

-- ── Binary numbers ──────────────────────────────────────────────────────────────

namespace BinaryNumber

/-- A hexadecimal number without a sign that may have underscores between its digits.  Each
    digit behind the point counts four powers of two. -/
def ofHexadecimal? (s : Bytes) : Option BinaryNumber :=
  match s with
  | zero :: mark :: body => do
    guard (zero == '0'.toUInt8 && (mark == 'x'.toUInt8 || mark == 'X'.toUInt8))
    guard (Written.separatesDigits 16 true body)
    let w ← Written.read? 16 'p'.toUInt8 (Written.withoutUnderscores body)
    return ⟨w.digits, (← w.exponent) - 4 * w.places⟩
  | _ => none

/-- The binary number of limited precision nearest to a number without a sign, unless that is
    too large. -/
def read? (p : Precision) (s : Bytes) : Option BinaryNumber :=
  match ofHexadecimal? s with
  | some n => n.nearest p
  | none => (Decimal.readSeparated? s).bind (Decimal.nearest p)

end BinaryNumber

end TwoPass
