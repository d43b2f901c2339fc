import TwoPass.Script.Format

/-!
# Operators of scripts

Whole numbers have no bound, and their division and remainder go to the floor.  Mixed
with real numbers they become real.
-/

namespace TwoPass

namespace Script

-- ── Numbers ─────────────────────────────────────────────────────────────────────

/-- An operation on the bits of two numbers in two's complement of sufficient width. -/
def bitwise (f : (w : Nat) → BitVec w → BitVec w → BitVec w) (a b : Int) : Int :=
  let w := max a.natAbs.log2 b.natAbs.log2 + 2
  (f w (BitVec.ofInt w a) (BitVec.ofInt w b)).toInt

/-- The real number nearest to a whole number, unless that is infinite. -/
def realOf? (n : Int) : Option Float :=
  let x := Floating.ofInt n
  if x.isInf then none else some x

/-- Both operands as real numbers, if both are numbers. -/
def reals? : Value → Value → Option (Float × Float)
  | .real x, .real y => some (x, y)
  | .integer n, .real y => (realOf? n).map (·, y)
  | .real x, .integer n => (realOf? n).map (x, ·)
  | .integer m, .integer n => do return (← realOf? m, ← realOf? n)
  | _, _ => none

/-- The remainder of two real numbers, with the sign of the divisor as far as rounding
    leaves it. -/
def realModulo (x y : Float) : Float :=
  let r := Floating.remainder x y
  if r != 0 && (x < 0) != (y < 0) then r + y else r

/-- Whether a text occurs in another. -/
def occurs (needle : Bytes) : Bytes → Bool
  | [] => needle.isEmpty
  | s@(_ :: rest) => needle.isPrefixOf s || occurs needle rest

/-- A list repeated, as long as the whole is not too large. -/
def repeated {α : Type} (items : List α) (count : Value) : Option (List α) :=
  if items.isEmpty then
    match count with
    | .integer _ => some []
    | _ => none
  else do
    let n ← small? count
    if 0x40000000 ≤ items.length * n.toNat then none
    else return (List.replicate n.toNat items).flatten

/-- Shifts a whole number; there is a limit to the left. -/
def shifted (left : Bool) (n : Int) (count : Value) : Option Int := do
  let k ← small? count
  if k < 0 then none
  else if left then if 512 ≤ k then none else return n * Nat.pow 2 k.toNat
  else return n >>> k.toNat

-- ── Application ─────────────────────────────────────────────────────────────────

/-- Whether a value is in another. -/
def Store.contains (s : Store) (x : Value) : Value → Option Bool
  | .list r => anyEqual (s.items r)
  | .tuple items => anyEqual items
  | .dict r => some (s.lookup r x).isSome
  | .range start stop step => do
    match small? (.integer (← wholeOf? x)) with
    | none => return false
    | some n =>
      let offset := wrap (n - start)
      return offset.tmod step == 0 && 0 ≤ offset.tdiv step
        && offset.tdiv step < rangeSize start stop step
  | .text t => match x with
    | .text needle => some (occurs needle t)
    | _ => none
  | .data t => match x with
    | .data needle => some (occurs needle t)
    | .integer n => if 0 ≤ n && n < 256 then some (t.contains n.toNat.toUInt8) else none
    | _ => none
  | _ => none
where
  /-- Whether a value is equal to one of a list. -/
  anyEqual : List Value → Option Bool
  | [] => some false
  | y :: rest => do if ← s.equal x y then return true else anyEqual rest

/-- A comparison by order. -/
def Store.ordered (s : Store) (test : Ordering → Bool) (x y : Value) : Act Value := do
  match s.order x y with
  | some o => return .bool (test o)
  | none => failure

open Act in
/-- The sum of two values. -/
def add (x y : Value) : Act Value := do
  match x, y with
  | .integer a, .integer b => return .integer (a + b)
  | .text a, .text b => return .text (a ++ b)
  | .tuple a, .tuple b => return .tuple (a ++ b)
  | .list a, .list b =>
    let s ← get
    newList (s.items a ++ s.items b)
  | _, _ =>
    let (a, b) ← lift (reals? x y)
    return .real (a + b)

open Act in
/-- The product of two values, or a sequence repeated. -/
def multiply (x y : Value) : Act Value := do
  match x, y with
  | .integer a, .integer b => return .integer (a * b)
  | .text a, n => return .text (← lift (repeated a n))
  | n, .text a => return .text (← lift (repeated a n))
  | .data a, n => return .data (← lift (repeated a n))
  | n, .data a => return .data (← lift (repeated a n))
  | .tuple a, n => return .tuple (← lift (repeated a n))
  | n, .tuple a => return .tuple (← lift (repeated a n))
  | .list r, n => newList (← lift (repeated ((← get).items r) n))
  | n, .list r => newList (← lift (repeated ((← get).items r) n))
  | _, _ =>
    let (a, b) ← lift (reals? x y)
    return .real (a * b)

open Act in
/-- Applies an operation on real numbers whose divisor must not be zero. -/
def divideReals (f : Float → Float → Float) (x y : Value) : Act Value := do
  let (a, b) ← lift (reals? x y)
  if b == 0 then failure
  return .real (f a b)

open Act in
/-- The dictionary with the entries of two, those of the second over those of the first. -/
def merge (a b : Nat) : Act Dictionary := do
  let s ← get
  lift ((s.dictionary a).insertAll? (s.entries b))

open Act in
/-- The value of an operator with both operands. -/
def Binary.apply (op : Binary) (x y : Value) : Act Value := do
  let s ← get
  match op with
  | .equal => return .bool (← lift (s.equal x y))
  | .unequal => return .bool (!(← lift (s.equal x y)))
  | .less => s.ordered (· == .lt) x y
  | .greater => s.ordered (· == .gt) x y
  | .lessEqual => s.ordered (· != .gt) x y
  | .greaterEqual => s.ordered (· != .lt) x y
  | .member => return .bool (← lift (s.contains x y))
  | .absent => return .bool (!(← lift (s.contains x y)))
  | .bitOr => match x, y with
    | .integer a, .integer b => return .integer (bitwise (fun _ u v => u ||| v) a b)
    | .dict a, .dict b => newDict (← merge a b)
    | _, _ => failure
  | .bitXor => match x, y with
    | .integer a, .integer b => return .integer (bitwise (fun _ u v => u ^^^ v) a b)
    | _, _ => failure
  | .bitAnd => match x, y with
    | .integer a, .integer b => return .integer (bitwise (fun _ u v => u &&& v) a b)
    | _, _ => failure
  | .shiftLeft => match x with
    | .integer a => return .integer (← lift (shifted true a y))
    | _ => failure
  | .shiftRight => match x with
    | .integer a => return .integer (← lift (shifted false a y))
    | _ => failure
  | .plus => add x y
  | .minus => match x, y with
    | .integer a, .integer b => return .integer (a - b)
    | _, _ =>
      let (a, b) ← lift (reals? x y)
      return .real (a - b)
  | .times => multiply x y
  | .divide => divideReals (· / ·) x y
  | .floorDivide => match x, y with
    | .integer a, .integer b => if b = 0 then failure else return .integer (a.fdiv b)
    | _, _ => divideReals (fun a b => (a / b).floor) x y
  | .modulo => match x, y with
    | .text pattern, _ => return .text (← lift (s.format pattern y))
    | .integer a, .integer b => if b = 0 then failure else return .integer (a.fmod b)
    | _, _ => divideReals realModulo x y

/-- The value of an operator with one operand. -/
def Unary.apply (op : Unary) (x : Value) : Act Value := do
  match op, x with
  | .negation, _ => return .bool (!(← get).truth x)
  | .plus, .integer n => return .integer n
  | .plus, .real r => return .real r
  | .minus, .integer n => return .integer (-n)
  | .minus, .real r => return .real (-r)
  | .complement, .integer n => return .integer (-n - 1)
  | _, _ => failure

end Script

end TwoPass
