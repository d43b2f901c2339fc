import TwoPass.Script.Floating
import TwoPass.Script.Token
import TwoPass.Text.Numeral

/-!
# Number literals of scripts

Whole numbers are decimal, or have a base behind a zero and a letter; real numbers have a
point, an exponent or both.
-/

namespace TwoPass

namespace Script

namespace Scanner

/-- The value of digits in a base. -/
def valueOf (base : Nat) (cs : List Char) : Nat :=
  cs.foldl (fun n c => n * base + ((Numeral.digitValue? c.toUInt8).getD 0)) 0

/-- Whether a character is a digit of a base. -/
def isDigitOf (base : Nat) (c : Char) : Bool :=
  c.toNat < 128 && (Numeral.digitValue? c.toUInt8).any (· < base)

/-- Digits behind a base mark, of which there must be one; binary and octal numbers must
    fit in 63 bits. -/
def scanBased (base : Nat) (cs : List Char) : Option (Token × List Char) :=
  let digits := cs.takeWhile (isDigitOf base)
  let value := valueOf base digits
  if digits = [] || (base != 16 && 0x8000000000000000 ≤ value) then none
  else some (.integer value, cs.dropWhile (isDigitOf base))

/-- An exponent behind its mark. -/
def scanExponent (cs : List Char) : Option (Int × List Char) :=
  let (negative, body) := match cs with
    | '+' :: rest => (false, rest)
    | '-' :: rest => (true, rest)
    | rest => (false, rest)
  let digits := body.takeWhile Char.isDigit
  let value : Int := Written.exponentOf (digits.map fun c => c.toNat - '0'.toNat)
  if digits = [] then none
  else some (if negative then -value else value, body.dropWhile Char.isDigit)

/-- A real number, unless it is too large for one. -/
def makeReal (digits : Nat) (exponent : Int) : Option Token :=
  if (Floating.ofDecimal digits exponent).isInf then none else some (.real digits exponent)

/-- What follows the whole part of a real number: a fraction, an exponent, or both. -/
def scanReal (whole : List Char) (cs : List Char) : Option (Token × List Char) := do
  let (fraction, rest) := match cs with
    | '.' :: rest => (rest.takeWhile Char.isDigit, rest.dropWhile Char.isDigit)
    | rest => ([], rest)
  let (exponent, rest) ← match rest with
    | 'e' :: rest => scanExponent rest
    | 'E' :: rest => scanExponent rest
    | rest => some (0, rest)
  return (← makeReal (valueOf 10 (whole ++ fraction)) (exponent - fraction.length), rest)

/-- A number in decimal.  A zero in front of other digits is refused in whole numbers,
    unless they are zeros too. -/
def scanDecimal (cs : List Char) : Option (Token × List Char) :=
  let digits := cs.takeWhile Char.isDigit
  let rest := cs.dropWhile Char.isDigit
  if rest.head?.any (fun c => c == '.' || c == 'e' || c == 'E') then scanReal digits rest
  else if digits.head? == some '0' && digits.any (· != '0') then none
  else some (.integer (valueOf 10 digits), rest)

/-- A number literal. -/
def scanNumber : List Char → Option (Token × List Char)
  | '0' :: 'x' :: rest => scanBased 16 rest
  | '0' :: 'X' :: rest => scanBased 16 rest
  | '0' :: 'o' :: rest => scanBased 8 rest
  | '0' :: 'O' :: rest => scanBased 8 rest
  | '0' :: 'b' :: rest => scanBased 2 rest
  | '0' :: 'B' :: rest => scanBased 2 rest
  | cs => scanDecimal cs

end Scanner

end Script

end TwoPass
