import TwoPass.Script.Operator
import TwoPass.Text.Numeral

/-!
# The functions that every script knows

Each takes arguments by position, a few also by name; any other argument is a failure.
Settings need numbers, texts and collections, so functions on attributes and hashes are
known by name only: a script that calls one fails.
-/

namespace TwoPass

namespace Script

-- ── Arguments ────────────────────────────────────────────────────────────────

/-- The arguments of a function that takes none by name. -/
def Arguments.unnamed (a : Arguments) : Act (List Value) :=
  if a.named.isEmpty then return a.positional else failure

/-- The only argument of a function. -/
def Arguments.single (a : Arguments) : Act Value := do
  let [v] ← a.unnamed | failure
  return v

/-- The only argument of a function that can do without. -/
def Arguments.optional (a : Arguments) : Act (Option Value) := do
  match ← a.unnamed with
  | [] => return none
  | [v] => return some v
  | _ => failure

/-- Arguments by position or by name, in the order of the names given. -/
def Arguments.bind (a : Arguments) (names : List String) : Act (List (Option Value)) := do
  let names := names.map Bytes.ofString
  let late := names.drop a.positional.length
  unless a.positional.length ≤ names.length && a.named.all (fun n => late.contains n.1) do failure
  unless allDistinct (a.named.map Prod.fst) do failure
  return a.positional.map some ++ late.map fun n => a.named.lookup n

-- ── Conversions ──────────────────────────────────────────────────────────────

/-- The base that a mark behind a leading zero stands for, in texts with digits behind it. -/
def markedBase? : Bytes → Option Nat
  | zero :: mark :: _ :: _ =>
    if zero != '0'.toUInt8 then none
    else if mark == 'x'.toUInt8 || mark == 'X'.toUInt8 then some 16
    else if mark == 'o'.toUInt8 || mark == 'O'.toUInt8 then some 8
    else if mark == 'b'.toUInt8 || mark == 'B'.toUInt8 then some 2
    else none
  | _ => none

/-- The value of digits in a base, of which there must be one. -/
def readDigits? (base : Nat) (digits : Bytes) : Option Nat :=
  if digits.isEmpty then none
  else digits.foldlM (fun n b => do
    let d ← Numeral.digitValue? b
    if d < base then return n * base + d else none) 0

/-- The value of a text without a sign.  Base zero means the one that its mark gives, or ten
    for digits that do not start with a zero. -/
def readUnsigned? (base : Nat) (s : Bytes) : Option Nat :=
  match markedBase? s with
  | some marked =>
    if base = 0 || base = marked then readDigits? marked (s.drop 2) else readDigits? base s
  | none =>
    if base != 0 then readDigits? base s
    else if 1 < s.length && s.head? == some '0'.toUInt8 then
      if s.all (· == '0'.toUInt8) then some 0 else none
    else readDigits? 10 s

/-- The value of a text with at most one sign. -/
def readInt? (base : Nat) : Bytes → Option Int
  | [] => none
  | b :: rest =>
    if b == '-'.toUInt8 then (readUnsigned? base rest).map fun n => -(n : Int)
    else if b == '+'.toUInt8 then (readUnsigned? base rest).map fun n => (n : Int)
    else (readUnsigned? base (b :: rest)).map fun n => (n : Int)

/-- A base for reading numbers. -/
def base? : Option Value → Option Nat
  | none => some 10
  | some v => do
    let n ← small? v
    if n = 0 || (2 ≤ n && n ≤ 36) then return n.toNat else none

/-- A whole number made of a value. -/
def toInt? (v : Value) (base : Option Value) : Option Int :=
  match v, base with
  | .text s, _ => do readInt? (← base? base) s
  | _, some _ => none
  | .bool b, none => some b.toNat
  | v, none => wholeOf? v

/-- The number of the only code point of a text, or of the only byte of data. -/
def codeOf? : Value → Option Nat
  | .text t => match t.glyphs with
    | [g] => some (g.code?.getD 0xFFFD)
    | _ => none
  | .data [byte] => some byte.toNat
  | _ => none

/-- A number of 64 bits, for the bounds of ranges. -/
def wide? : Value → Option Int
  | .integer n => if -0x8000000000000000 ≤ n && n < 0x8000000000000000 then some n else none
  | _ => none

-- ── Collections ──────────────────────────────────────────────────────────────

open Act

/-- The number of elements of a value, bytes in case of a text. -/
def Store.size (s : Store) : Value → Option Nat
  | .text t => some t.length
  | .data t => some t.length
  | .range start stop step =>
    let size := rangeSize start stop step
    if size < 0 then none else some size.toNat
  | .tuple items => some items.length
  | .list r => some (s.items r).length
  | .dict r => some (s.dictionary r).size
  | _ => none

/-- Adds the entries of a dictionary, or pairs, to a dictionary. -/
def update (cell : Nat) (v : Value) : Act Unit := do
  match v with
  | .dict r => ((← get).entries r).forM fun e => setKey cell e.1 e.2
  | _ =>
    (← elements v).forM fun pair => do
      let [key, value] ← unpack 2 pair | failure
      setKey cell key value

/-- A range of one to three bounds. -/
def makeRange (bounds : List Int) : Option Value :=
  match bounds with
  | [stop] => some (.range 0 stop 1)
  | [start, stop] => some (.range start stop 1)
  | [start, stop, step] => if step = 0 then none else some (.range start stop step)
  | _ => none

/-- The first of values for which no other comes before it in an order. -/
def extreme (before : Ordering) : List Value → Act Value
  | [] => failure
  | first :: rest => rest.foldlM (fun best v => do
      return if (← lift ((← get).order v best)) == before then v else best) first

/-- A value put into a sorted list behind those that are not greater. -/
def insertSorted (s : Store) (v : Value) : List Value → Option (List Value)
  | [] => some [v]
  | x :: rest => do
    if (← s.order v x) == .lt then return v :: x :: rest
    else return x :: (← insertSorted s v rest)

/-- The values at the same position in several series, up to the end of the shortest. -/
def columns (all : List Series) : List Value :=
  let size := ((all.map Series.size).min?).getD 0
  let rows := all.map fun s => (s.take size).toArray
  (List.range size).map fun i => .tuple (rows.filterMap fun r => r[i]?)

/-- The values of a call that are printed, with a separator between them. -/
def message (a : Arguments) : Act Bytes := do
  let separator ← match a.named with
    | [] => pure (Bytes.ofString " ")
    | [(name, .text s)] => if name = Bytes.ofString "sep" then pure s else failure
    | _ => failure
  let s ← get
  return Bytes.join separator (a.positional.map s.display)

/-- Runs a function that every script knows. -/
def Builtin.run (b : Builtin) (a : Arguments) : Act Value := do
  match b with
  | .abs => match ← a.single with
    | .integer n => return .integer n.natAbs
    | .real x => return .real x.abs
    | _ => failure
  | .all =>
    let s ← get
    return .bool ((← elements (← a.single)).all s.truth)
  | .any =>
    let s ← get
    return .bool ((← elements (← a.single)).any s.truth)
  | .bool => match ← a.optional with
    | none => return .bool false
    | some v => return .bool ((← get).truth v)
  | .chr => match ← a.single with
    | .integer n => return .text (← lift (codePoint? (.integer n)))
    | _ => failure
  | .dict =>
    let cell ← allocate (.dict .empty 0)
    match a.positional with
    | [] => pure ()
    | [v] => update cell v
    | _ => failure
    a.named.forM fun (name, value) => setKey cell (.text name) value
    unless allDistinct (a.named.map Prod.fst) do failure
    return .dict cell
  | .enumerate =>
    let (v, start) ← match ← a.unnamed with
      | [v] => pure (v, 0)
      | [v, start] => pure (v, ← lift (wide? start))
      | _ => failure
    let items := (← elements v).zipIdx.map fun (x, i) => .tuple [.integer (start + i), x]
    newList items
  | .fail => failure
  | .int =>
    let [some v, base] ← a.bind ["x", "base"] | failure
    return .integer (← lift (toInt? v base))
  | .len =>
    let v ← a.single
    return .integer (← read (·.size v))
  | .list => match ← a.optional with
    | none => newList []
    | some v => newList (← elements v)
  | .max => match ← a.unnamed with
    | [v] => extreme .gt (← elements v)
    | vs => extreme .gt vs
  | .min => match ← a.unnamed with
    | [v] => extreme .lt (← elements v)
    | vs => extreme .lt vs
  | .ord => return .integer (← lift (codeOf? (← a.single)))
  | .print =>
    Act.print (← message a)
    return .nothing
  | .range =>
    let bounds ← (← a.unnamed).mapM fun v => lift (wide? v)
    lift (makeRange bounds)
  | .repr =>
    let v ← a.single
    return .text ((← get).write v)
  | .reversed => newList (← elements (← a.single)).reverse
  | .sorted =>
    let items ← elements (← a.single)
    let s ← get
    newList (← lift (items.foldlM (fun sorted v => insertSorted s v sorted) []))
  | .str =>
    let v ← a.single
    return .text ((← get).toText v)
  | .tuple => match ← a.optional with
    | none => return .tuple []
    | some v => return .tuple (← elements v)
  | .type => return .text (Bytes.ofString (← a.single).typeName)
  | .zip => newList (columns (← (← a.unnamed).mapM fun v => Act.read (·.series v)))
  | _ => failure

-- ── Names ────────────────────────────────────────────────────────────────────

/-- All functions that every script knows. -/
def Builtin.values : List Builtin :=
  [ .abs, .all, .any, .bool, .bytes, .chr, .dict, .dir, .enumerate, .fail, .float, .getattr,
    .hasattr, .hash, .int, .len, .list, .max, .min, .ord, .print, .range, .repr, .reversed,
    .sorted, .str, .tuple, .type, .zip ]

/-- The names that every script knows, with their values. -/
def commonNames : List (Bytes × Value) :=
  [ (Bytes.ofString "None", .nothing), (Bytes.ofString "True", .bool true),
    (Bytes.ofString "False", .bool false) ]
    ++ Builtin.values.map fun b => (Bytes.ofString b.name, .builtin b)

end Script

end TwoPass
