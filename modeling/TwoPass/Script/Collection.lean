import TwoPass.Script.Comparison

/-!
# Collections — keys, loops, positions and slices

Nothing can be changed while a loop goes over it.  Positions count from the front, negative
ones from the end.
-/

namespace TwoPass

namespace Script

/-- The value of a key. -/
def Store.lookup (s : Store) (cell : Nat) (key : Value) : Option Value :=
  if key.isKey then (s.dictionary cell).get? key else none

-- ── Series ──────────────────────────────────────────────────────────────────────

/-- What a loop goes through: values, or numbers with equal steps between them. -/
inductive Series where
  | values (items : List Value)
  | numbers (start step : Int) (count : Nat)

namespace Series

/-- How many values a series has. -/
def size : Series → Nat
  | values items => items.length
  | numbers _ _ count => count

/-- The first values of a series. -/
def take (count : Nat) : Series → List Value
  | values items => items.take count
  | numbers start step size =>
    (List.range (min count size)).map fun (i : Nat) => .integer (start + step * i)

/-- The values of a series. -/
def toList (s : Series) : List Value := s.take s.size

variable {α : Type}

/-- The first result that a step gives for values. -/
def firstValue (f : Value → Act (Option α)) : List Value → Act (Option α)
  | [] => return none
  | x :: rest => do
    match ← f x with
    | some r => return some r
    | none => firstValue f rest

/-- The first result that a step gives for numbers. -/
def firstNumber (f : Value → Act (Option α)) (step : Int) : Nat → Int → Act (Option α)
  | 0, _ => return none
  | count + 1, n => do
    match ← f (.integer n) with
    | some r => return some r
    | none => firstNumber f step count (n + step)

/-- Takes a step for each value until one gives a result. -/
def first (f : Value → Act (Option α)) : Series → Act (Option α)
  | values items => firstValue f items
  | numbers start step count => firstNumber f step count start

/-- Takes a step for each value. -/
def each (f : Value → Act Unit) (s : Series) : Act Unit := do
  let _ ← s.first fun x => do
    f x
    return (none : Option Unit)

end Series

/-- What a loop over a value goes through. -/
def Store.series (s : Store) : Value → Option Series
  | .list r => some (.values (s.items r))
  | .tuple items => some (.values items)
  | .dict r => some (.values ((s.entries r).map Prod.fst))
  | .range start stop step => some (.numbers start step (rangeSize start stop step).toNat)
  | _ => none

/-- The values that a loop over a value goes through. -/
def Store.elements (s : Store) (v : Value) : Option (List Value) := (s.series v).map Series.toList

namespace Act

/-- Sets the value of a key in a dictionary. -/
def setKey (cell : Nat) (key value : Value) : Act Unit := do
  unless key.isKey do failure
  setDictionary cell (← lift (((← get).dictionary cell).insert? key value))

/-- The values that a loop over a value goes through. -/
def elements (v : Value) : Act (List Value) := read (·.elements v)

/-- The values of a value that has a certain number of them. -/
def unpack (count : Nat) (v : Value) : Act (List Value) := do
  let s ← read (·.series v)
  if s.size = count then return s.toList else failure

/-- Changes the number of loops over a value, if it is one that can change. -/
def countReaders (change : Nat → Nat) : Value → Act Unit
  | .list r => modify fun s => s.setReaders r (change (s.readers r))
  | .dict r => modify fun s => s.setReaders r (change (s.readers r))
  | _ => return ()

/-- Goes over the elements of a value, which cannot change meanwhile. -/
def through {α : Type} (v : Value) (body : Series → Act α) : Act α := do
  let items ← read (·.series v)
  countReaders (· + 1) v
  let result ← body items
  countReaders (· - 1) v
  return result

end Act

-- ── Positions and slices ────────────────────────────────────────────────────────

/-- A position counted from either end of something of a size. -/
def position? (size : Nat) (v : Value) : Option Nat := do
  let n ← small? v
  let n := if n < 0 then n + size else n
  if 0 ≤ n && n < size then return n.toNat else none

/-- The item at a position, or the value of a key. -/
def Store.itemAt (s : Store) (key : Value) : Value → Option Value
  | .list r => do (s.items r)[← position? (s.items r).length key]?
  | .tuple items => do items[← position? items.length key]?
  | .text t => do return .text [← t[← position? t.length key]?]
  | .data t => do return .integer (← t[← position? t.length key]?).toNat
  | .range start stop step => do
    return .integer (start + step * (← position? (rangeSize start stop step).toNat key))
  | .dict r => s.lookup r key
  | _ => none

open Act in
/-- Sets an item of a list or the value of a key. -/
def setItem (subject key value : Value) : Act Unit := do
  match subject with
  | .dict r => setKey r key value
  | .list r =>
    let items := (← get).items r
    let i ← lift (position? items.length key)
    setItems r (items.set i value)
  | _ => failure

/-- A bound of a slice: nothing leaves the given one, a negative one counts from the end. -/
def bound? (size otherwise : Int) : Option Value → Option Int
  | none => some otherwise
  | some .nothing => some otherwise
  | some v => (small? v).map fun n => if n < 0 then n + size else n

/-- A bound of a slice that goes forward, kept inside. -/
def clamped (size n : Int) : Int := if n < 0 then 0 else if size < n then size else n

/-- Where a slice starts, where it ends, and its step. -/
def sliceBounds (size : Int) (low high step : Option Value) : Option (Int × Int × Int) := do
  let step ← match step with
    | none => some 1
    | some .nothing => some 1
    | some v => small? v
  if step = 0 then none
  else if 0 < step then
    let start := clamped size (← bound? size 0 low)
    let stop := clamped size (← bound? size size high)
    return (start, max start stop, step)
  else
    let start := min (← bound? size (size - 1) low) (size - 1)
    let stop := max (← bound? size (-1) high) (-1)
    return (max start stop, stop, step)

/-- The items at the positions of a slice. -/
def sliceItems {α : Type} (items : List α) (low high step : Option Value) : Option (List α) := do
  let (start, stop, step) ← sliceBounds items.length low high step
  let all := items.toArray
  return (List.range (rangeSize start stop step).toNat).filterMap fun (i : Nat) =>
    all[(start + step * i).toNat]?

open Act in
/-- A slice of a value. -/
def sliceOf (subject : Value) (low high step : Option Value) : Act Value := do
  match subject with
  | .list r => newList (← lift (sliceItems ((← get).items r) low high step))
  | .tuple items => return .tuple (← lift (sliceItems items low high step))
  | .text t => return .text (← lift (sliceItems t low high step))
  | .data t => return .data (← lift (sliceItems t low high step))
  | .range start stop gap =>
    let (first, last, step) ← lift (sliceBounds (rangeSize start stop gap) low high step)
    return .range (wrap (start + gap * first)) (wrap (start + gap * last)) (wrap (gap * step))
  | _ => failure

end Script

end TwoPass
