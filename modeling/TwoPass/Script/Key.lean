import TwoPass.Script.Value

/-!
# Keys — the values that dictionaries are asked for

A value that cannot change can be a key.  A whole number and a real number of the same size
are the same key, so they have the same fingerprint as well.
-/

namespace TwoPass

namespace Script

mutual

/-- Whether a value can be a key. -/
def Value.isKey : Value → Bool
  | .list _ => false
  | .dict _ => false
  | .range _ _ _ => false
  | .tuple items => areKeys items
  | _ => true

/-- Whether all values of a list can be keys. -/
def areKeys : List Value → Bool
  | [] => true
  | v :: rest => v.isKey && areKeys rest

end

/-- The order of two real numbers; what is no number comes behind all others. -/
def orderReals (x y : Float) : Ordering :=
  if x > y then .gt
  else if x < y then .lt
  else if x == y then .eq
  else if x == x then .lt
  else if y == y then .gt
  else .eq

/-- The order of a whole number and a real number. -/
def orderMixed (n : Int) (x : Float) : Ordering :=
  if x.isNaN then .lt
  else if x.isInf then if x > 0 then .lt else .gt
  else Floating.compareInt n x

/-- How deeply nested values can be compared. -/
def compareLimit : Nat := 10

mutual

/-- Whether two keys are equal, however deeply they are nested. -/
def Value.isAlike : Value → Value → Bool
  | .nothing, .nothing => true
  | .bool a, .bool b => a == b
  | .integer a, .integer b => a == b
  | .real a, .real b => orderReals a b == .eq
  | .integer a, .real b => orderMixed a b == .eq
  | .real a, .integer b => !a.isNaN && orderMixed b a == .eq
  | .text a, .text b => a == b
  | .data a, .data b => a == b
  | .tuple a, .tuple b => areAlike a b
  | .function a, .function b => a == b
  | .builtin a, .builtin b => a == b
  | _, _ => false

/-- Whether the keys of two lists are equal in pairs. -/
def areAlike : List Value → List Value → Bool
  | [], [] => true
  | x :: xs, y :: ys => x.isAlike y && areAlike xs ys
  | _, _ => false

end

mutual

/-- How deeply a key is nested. -/
def Value.height : Value → Nat
  | .tuple items => heightOfAll items + 1
  | _ => 1

/-- How deeply the deepest key of a list is nested. -/
def heightOfAll : List Value → Nat
  | [] => 0
  | v :: rest => max v.height (heightOfAll rest)

end

-- ── Fingerprints ────────────────────────────────────────────────────────────────

/-- A number made of the bytes of a text. -/
def fingerprintOfBytes (t : Bytes) : UInt64 :=
  t.foldl (fun h b => (h ^^^ b.toUInt64) * 0x100000001B3) 0xCBF29CE484222325

mutual

/-- A number that equal keys share, and by which keys are found. -/
def Value.fingerprint : Value → UInt64
  | .nothing => 1
  | .bool b => if b then 2 else 3
  | .integer n => UInt64.ofInt n
  | .real x => if Floating.isFinite x then UInt64.ofInt (Floating.truncate x) else 4
  | .text t => fingerprintOfBytes t
  | .data t => fingerprintOfBytes t
  | .tuple items => fingerprintOfAll items
  | .function cell => UInt64.ofNat cell
  | _ => 5

/-- A number that equal lists of keys share. -/
def fingerprintOfAll : List Value → UInt64
  | [] => 6
  | v :: rest => v.fingerprint + 31 * fingerprintOfAll rest

end

end Script

end TwoPass
