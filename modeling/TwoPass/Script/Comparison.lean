import TwoPass.Script.Store

/-!
# Truth, equality and order of values

Values of different types differ, except that numbers of the two sorts are compared by
value; truth values are no numbers.  Lists and tuples are compared item by item, and
nothing nested deeper than ten levels can be compared.
-/

namespace TwoPass

namespace Script

/-- A number in the 64 bits that positions in ranges have. -/
def wrap (n : Int) : Int := n.bmod 0x10000000000000000

/-- How many numbers a range has.  A range of more than positions can count has a length
    below zero, and then no elements. -/
def rangeSize (start stop step : Int) : Int :=
  if 0 < step then
    if start < stop then wrap ((wrap (stop - 1 - start)).tdiv step + 1) else 0
  else if stop < start then wrap ((wrap (start - 1 - stop)).tdiv (wrap (-step)) + 1)
  else 0

/-- Whether a value counts as true. -/
def Store.truth (s : Store) : Value → Bool
  | .nothing => false
  | .bool b => b
  | .integer n => n != 0
  | .real x => x != 0
  | .text t => !t.isEmpty
  | .data t => !t.isEmpty
  | .range start stop step => 0 < rangeSize start stop step
  | .tuple items => !items.isEmpty
  | .list r => !(s.items r).isEmpty
  | .dict r => (s.dictionary r).size != 0
  | .function _ => true
  | .builtin _ => true

/-- Whether all pairs of two lists pass a test that may fail.  The lists must be equally
    long. -/
def allPairs (test : Value → Value → Option Bool) : List Value → List Value → Option Bool
  | [], [] => some true
  | x :: xs, y :: ys => do if ← test x y then allPairs test xs ys else return false
  | _, _ => some false

/-- Whether two values are equal.  Values nested deeper than the limit cannot be
    compared. -/
def Store.equalTo (s : Store) : Nat → Value → Value → Option Bool
  | 0, _, _ => none
  | depth + 1, x, y =>
    match x, y with
    | .nothing, .nothing => some true
    | .bool a, .bool b => some (a == b)
    | .integer a, .integer b => some (a == b)
    | .real a, .real b => some (orderReals a b == .eq)
    | .integer a, .real b => some (orderMixed a b == .eq)
    | .real a, .integer b => some (!a.isNaN && orderMixed b a == .eq)
    | .text a, .text b => some (a == b)
    | .data a, .data b => some (a == b)
    | .range a b c, .range a' b' c' =>
      let size := rangeSize a b c
      some (size == rangeSize a' b' c' && (size == 0 || (a == a' && (size == 1 || c == c'))))
    | .tuple a, .tuple b =>
      if a.length == b.length then allPairs (s.equalTo depth) a b else some false
    | .list a, .list b =>
      let (a, b) := (s.items a, s.items b)
      if a.length == b.length then allPairs (s.equalTo depth) a b else some false
    | .dict a, .dict b =>
      let (a, b) := (s.dictionary a, s.dictionary b)
      if a.size != b.size then some false
      else a.toList.foldr (fun e rest =>
        match b.get? e.1 with
        | none => some false
        | some v => do if ← s.equalTo depth e.2 v then rest else return false) (some true)
    | .function a, .function b => some (a == b)
    | .builtin a, .builtin b => some (a == b)
    | _, _ => some false

/-- The order of two lists, which is that of the first items that differ. -/
def orderLists (same : Value → Value → Option Bool) (order : Value → Value → Option Ordering) :
    List Value → List Value → Option Ordering
  | [], [] => some .eq
  | [], _ :: _ => some .lt
  | _ :: _, [] => some .gt
  | x :: xs, y :: ys => do if ← same x y then orderLists same order xs ys else order x y

/-- The order of two values, if they have one. -/
def Store.orderTo (s : Store) : Nat → Value → Value → Option Ordering
  | 0, _, _ => none
  | depth + 1, x, y =>
    match x, y with
    | .bool a, .bool b => some (compare a.toNat b.toNat)
    | .integer a, .integer b => some (compare a b)
    | .real a, .real b => some (orderReals a b)
    | .integer a, .real b => some (orderMixed a b)
    | .real a, .integer b => some (if a.isNaN then .gt else (orderMixed b a).swap)
    | .text a, .text b => some (compareOfLessAndEq a b)
    | .data a, .data b => some (compareOfLessAndEq a b)
    | .tuple a, .tuple b => orderLists (s.equalTo depth) (s.orderTo depth) a b
    | .list a, .list b => orderLists (s.equalTo depth) (s.orderTo depth) (s.items a) (s.items b)
    | _, _ => none

/-- Whether two values are equal. -/
def Store.equal (s : Store) (x y : Value) : Option Bool := s.equalTo compareLimit x y

/-- The order of two values. -/
def Store.order (s : Store) (x y : Value) : Option Ordering := s.orderTo compareLimit x y

end Script

end TwoPass
