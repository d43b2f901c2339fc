import TwoPass.Text.Ratio

/-!
# Shortest decimals — the fewest digits that read back as the same number

A finite binary64 number is m · 2^q.  The reals that round to it form an interval around
it, with its ends if m is even.  On the grid of decimals with one digit, then two, and so
on, the number's two neighbours are tried, and the first grid on which one lies in the
interval gives the digits; of two that do, the nearer one wins.
-/

namespace TwoPass

namespace Shortest

/-- The weight of the bit that is not stored. -/
def hidden : Nat := 0x10000000000000

/-- The magnitude of a finite number, with its smallest exponent. -/
def binary (x : Float) : BinaryNumber :=
  let bits := x.toBits.toNat
  let fraction : Nat := bits % hidden
  let exponent : Nat := bits / hidden % 2048
  if exponent = 0 then ⟨fraction, -1074⟩ else ⟨hidden + fraction, (exponent : Int) - 1075⟩

/-- The power of ten of the first digit of a positive ratio. -/
def magnitude (v : Ratio) : Int :=
  if v.den ≤ v.num then ((Bytes.digits 10 (v.num / v.den)).length : Int) - 1
  else -(((List.range 400).find? fun j => v.den ≤ v.num * Nat.pow 10 j).getD 400 : Int)

/-- The ends of the interval that rounds to a number, in units of a quarter of its last
    place. -/
def interval (b : BinaryNumber) : Ratio × Ratio :=
  let below := if b.mantissa = hidden && -1074 < b.exponent then 1 else 2
  (.scaled (4 * b.mantissa - below) 2 (b.exponent - 2),
    .scaled (4 * b.mantissa + 2) 2 (b.exponent - 2))

/-- The digits of a number on the grid with a given number of digits, if one of its
    neighbours there reads back, with the power of ten of the last digit. -/
def onGrid (b : BinaryNumber) (count : Nat) : Option (Nat × Int) :=
  let v := b.toRatio
  let unit := magnitude v - count + 1
  let (low, high) := interval b
  let inside (n : Nat) : Bool :=
    let q := Ratio.scaled n 10 unit
    if b.mantissa % 2 = 0 then low.le q && q.le high else low.lt q && q.lt high
  let grid := Ratio.scaled 1 10 unit
  let floor := v.num * grid.den / (v.den * grid.num)
  let nearerFloor : Bool := 2 * v.num * grid.den ≤ (2 * floor + 1) * (v.den * grid.num)
  if inside floor && (nearerFloor || !inside (floor + 1)) then some (floor, unit)
  else if inside (floor + 1) then some (floor + 1, unit)
  else none

/-- The shortest digits of a positive number, and the power of ten of the first. -/
def digits (b : BinaryNumber) : List Nat × Int :=
  match (List.range 17).findSome? fun i => onGrid b (i + 1) with
  | none => ([0], 0)
  | some (n, unit) =>
    let ds := Bytes.digits 10 n
    let stripped := (ds.reverse.dropWhile (· == 0)).reverse
    (stripped, unit + ds.length - 1)

end Shortest

end TwoPass
