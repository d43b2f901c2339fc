import TwoPass.Text.Bytes

/-!
# Ratios — exact values on their way to a limited precision

A number is taken as a ratio of whole numbers and then rounded once, to a whole number times
a power of two.  The last place is chosen before rounding, so numbers near zero are not
rounded twice.
-/

namespace TwoPass

/-- A number as a ratio. -/
structure Ratio where
  num : Nat
  den : Nat
  deriving DecidableEq, Repr

namespace Ratio

/-- A whole number times a power. -/
def scaled (n base : Nat) (e : Int) : Ratio :=
  if 0 ≤ e then ⟨n * Nat.pow base e.toNat, 1⟩ else ⟨n, Nat.pow base (-e).toNat⟩

/-- Whether a ratio is at most another. -/
def le (a b : Ratio) : Bool := a.num * b.den ≤ b.num * a.den

/-- Whether a ratio is below another. -/
def lt (a b : Ratio) : Bool := a.num * b.den < b.num * a.den

/-- The product of two ratios. -/
def mul (a b : Ratio) : Ratio := ⟨a.num * b.num, a.den * b.den⟩

/-- The whole number nearest to a ratio, the even one of two. -/
def rounded (v : Ratio) : Nat :=
  let floor := v.num / v.den
  match compare (2 * (v.num % v.den)) v.den with
  | .lt => floor
  | .eq => floor + floor % 2
  | .gt => floor + 1

end Ratio

/-- A whole number times a power of two. -/
structure BinaryNumber where
  mantissa : Nat
  exponent : Int
  deriving DecidableEq, Repr

/-- The value of a binary number. -/
def BinaryNumber.toRatio (b : BinaryNumber) : Ratio := Ratio.scaled b.mantissa 2 b.exponent

/-- How many bits a mantissa has, and between which exponents. -/
structure Precision where
  bits : Nat
  least : Int
  most : Int

namespace Precision

/-- Numbers in 32 bits. -/
def single : Precision := ⟨24, -149, 104⟩

/-- Numbers in 64 bits. -/
def double : Precision := ⟨53, -1074, 971⟩

end Precision

/-- The binary number nearest to a ratio, unless the ratio is too large. -/
def Ratio.nearest (p : Precision) (v : Ratio) : Option BinaryNumber :=
  if v.num = 0 then some ⟨0, p.least⟩
  else
    let guess : Int := (v.num.log2 : Int) - v.den.log2
    let top := if v.lt (scaled 1 2 guess) then guess - 1 else guess
    let unit := max (top - p.bits + 1) p.least
    let mantissa := (v.mul (scaled 1 2 (-unit))).rounded
    if p.most < unit || (unit = p.most && Nat.pow 2 p.bits ≤ mantissa) then none
    else some ⟨mantissa, unit⟩

/-- The binary number of limited precision nearest to a binary number, unless that is too
    large.  Exponents far beyond the limits are not worked out. -/
def BinaryNumber.nearest (p : Precision) (b : BinaryNumber) : Option BinaryNumber :=
  let top : Int := b.mantissa.log2 + b.exponent
  if b.mantissa = 0 || top < -2000 then some ⟨0, p.least⟩
  else if 2000 < top then none
  else b.toRatio.nearest p

end TwoPass
