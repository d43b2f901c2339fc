import TwoPass.Text.Shortest
import TwoPass.Text.Written

/-!
# Real numbers of scripts

Real numbers are binary64.  They are written with the fewest digits that read back: in
positional notation up to the sixth digit before the point and the fourth zero behind it,
with an exponent otherwise, and always so that they cannot be taken for whole numbers.
-/

namespace TwoPass

namespace Script

namespace Floating

/-- A binary number, or an infinite one. -/
def ofBinary? : Option BinaryNumber → Float
  | some b => (Float.ofNat b.mantissa).scaleB b.exponent
  | none => 1 / 0

/-- The number nearest to a whole number. -/
def ofInt (n : Int) : Float :=
  let x := ofBinary? (Ratio.nearest .double ⟨n.natAbs, 1⟩)
  if n < 0 then -x else x

/-- The number nearest to a whole number times a power of ten. -/
def ofDecimal (digits : Nat) (exponent : Int) : Float :=
  ofBinary? (Decimal.nearest .double ⟨digits, exponent⟩)

/-- Whether a number is neither infinite nor undefined. -/
def isFinite (x : Float) : Bool := !(x.isNaN || x.isInf)

/-- Whether the sign of a number is negative. -/
def isNegative (x : Float) : Bool := 0x8000000000000000 ≤ x.toBits.toNat

/-- The value of a finite number as a ratio of whole numbers. -/
def ratio (x : Float) : Int × Nat :=
  let q := (Shortest.binary x).toRatio
  (if isNegative x then -(q.num : Int) else q.num, q.den)

/-- A finite number without its fraction. -/
def truncate (x : Float) : Int :=
  let (num, den) := ratio x
  num.tdiv den

/-- What is left of a number behind the multiples of another, with the sign of the first.
    It is a multiple of the smaller of their last places, so nothing is rounded. -/
def remainder (x y : Float) : Float :=
  if !isFinite x || y.isNaN || y == 0 then 0 / 0
  else if y.isInf then x
  else
    let a := Shortest.binary x
    let b := Shortest.binary y
    let unit := min a.exponent b.exponent
    let units (n : BinaryNumber) : Nat := n.mantissa * Nat.pow 2 (n.exponent - unit).toNat
    let r := (Float.ofNat (units a % units b)).scaleB unit
    if isNegative x then -r else r

/-- The order of a whole number and a finite number. -/
def compareInt (n : Int) (x : Float) : Ordering :=
  let (num, den) := ratio x
  compare (n * den) num

/-- Digits with a point behind the first. -/
def scientific (ds : List Nat) (exponent : Int) : Bytes :=
  let body := match ds.map Bytes.digitByte with
    | [] => []
    | [d] => [d]
    | d :: rest => d :: '.'.toUInt8 :: rest
  let size := Bytes.decimalNat exponent.natAbs
  body ++ ['e'.toUInt8, if exponent < 0 then '-'.toUInt8 else '+'.toUInt8]
    ++ List.replicate (2 - size.length) '0'.toUInt8 ++ size

/-- Digits around a point. -/
def positional (ds : List Nat) (exponent : Int) : Bytes :=
  let zeros (n : Nat) := List.replicate n 0
  let write (l : List Nat) := l.map Bytes.digitByte
  if exponent < 0 then write [0] ++ ['.'.toUInt8] ++ write (zeros (-exponent - 1).toNat ++ ds)
  else
    let whole := exponent.toNat + 1
    let fraction := if ds.length ≤ whole then [0] else ds.drop whole
    write (ds.take whole ++ zeros (whole - ds.length)) ++ ['.'.toUInt8] ++ write fraction

/-- The text of a number that is not finite. -/
def endless? (x : Float) : Option Bytes :=
  if x.isNaN then some (Bytes.ofString "nan")
  else if x.isInf then some (Bytes.ofString (if isNegative x then "-inf" else "+inf"))
  else none

/-- The sign of a number, if it is written. -/
def sign (x : Float) : Bytes := if isNegative x then ['-'.toUInt8] else []

/-- A real number as text. -/
def text (x : Float) : Bytes :=
  match endless? x with
  | some t => t
  | none =>
    let b := Shortest.binary x
    let (ds, exponent) := if b.mantissa = 0 then ([0], 0) else Shortest.digits b
    sign x
      ++ if exponent < -4 || 6 ≤ exponent then scientific ds exponent else positional ds exponent

/-- A text with the letter of an exponent in upper case. -/
def upperExponent (t : Bytes) : Bytes :=
  t.map fun b => if b == 'e'.toUInt8 then 'E'.toUInt8 else b

/-- A real number with six digits behind the point. -/
def fixed (x : Float) : Bytes :=
  match endless? x with
  | some t => t
  | none =>
    let v := (Shortest.binary x).toRatio
    let ds := Bytes.digits 10 (v.mul ⟨1000000, 1⟩).rounded
    let all := (List.replicate (7 - ds.length) 0 ++ ds).map Bytes.digitByte
    sign x ++ all.take (all.length - 6) ++ '.'.toUInt8 :: all.drop (all.length - 6)

/-- A real number with seven digits and an exponent. -/
def exponential (x : Float) : Bytes :=
  match endless? x with
  | some t => t
  | none =>
    let b := Shortest.binary x
    if b.mantissa = 0 then sign x ++ scientific (List.replicate 7 0) 0
    else
      let exponent := Shortest.magnitude b.toRatio
      let n := (b.toRatio.mul (.scaled 1 10 (6 - exponent))).rounded
      sign x ++ if n < 10000000 then scientific (Bytes.digits 10 n) exponent
        else scientific (Bytes.digits 10 (n / 10)) (exponent + 1)

end Floating

end Script

end TwoPass
