import TwoPass.Text.Utf8

/-!
# Slots — the places of a message format

A slot starts with a percent sign.  Behind it stand flags, a width, a precision and the
letter that says how an argument is shown.  Width and precision are numbers or stars, which
take their value from an argument.  Arguments are used in order, unless a number in brackets
chooses another one.
-/

namespace TwoPass

/-- An argument of a message. -/
inductive Argument where
  | text (bytes : Bytes)
  | number (n : Int)
  deriving DecidableEq, Repr

/-- How an argument is shown.  A literal one is shown as it is written in programs. -/
structure Spec where
  sharp : Bool
  plus : Bool
  minus : Bool
  space : Bool
  zero : Bool
  literal : Bool
  width : Option Nat
  precision : Option Nat
  deriving DecidableEq, Repr

namespace Spec

/-- Without flags, width and precision. -/
def plain : Spec := ⟨false, false, false, false, false, false, none, none⟩

end Spec

/-- What has been used of the arguments: the next one in order, and whether the order was
    changed. -/
structure Usage where
  next : Nat
  reordered : Bool
  deriving DecidableEq, Repr

namespace Usage

/-- Nothing is used yet. -/
def start : Usage := ⟨0, false⟩

end Usage

/-- What a slot comes to.  A complaint stands in front of an argument that is shown
    nevertheless. -/
inductive Slot where
  | percent
  | incomplete
  | badIndex (verb : Nat)
  | missing (verb : Nat)
  | argument (complaint : String) (spec : Spec) (verb : Nat) (value : Argument)
  deriving DecidableEq, Repr

namespace Slot

-- ── Parts ───────────────────────────────────────────────────────────────────────

/-- The largest width and precision. -/
def limit : Nat := 1000000

/-- Digits behind a number already read.  A number that gets too large takes everything with
    it. -/
def digitsFrom : Option Nat → Bytes → Option Nat × Bytes
  | found, [] => (found, [])
  | found, b :: rest =>
    if !Bytes.isDigit b then (found, b :: rest)
    else if limit < found.getD 0 then (none, [])
    else digitsFrom (some (found.getD 0 * 10 + (b - '0'.toUInt8).toNat)) rest

/-- A number at the start of a text, if there is one. -/
def number (s : Bytes) : Option Nat × Bytes := digitsFrom none s

/-- The flags at the start of a slot.  Zeros are not put behind what is shown. -/
def flags : Spec → Bytes → Spec × Bytes
  | spec, [] => (spec, [])
  | spec, b :: rest =>
    match Char.ofNat b.toNat with
    | '#' => flags { spec with sharp := true } rest
    | '0' => flags { spec with zero := !spec.minus } rest
    | '+' => flags { spec with plus := true } rest
    | '-' => flags { spec with minus := true, zero := false } rest
    | ' ' => flags { spec with space := true } rest
    | _ => (spec, b :: rest)

/-- The state of reading a slot. -/
structure Reading where
  rest : Bytes
  usage : Usage
  hasIndex : Bool
  isGood : Bool
  complaint : String

/-- Reads the number of an argument in brackets, if there is one. -/
def readIndex (args : List Argument) (r : Reading) : Reading :=
  if r.rest.head? != some '['.toUInt8 then { r with hasIndex := false }
  else
    let usage := { r.usage with reordered := true }
    let bad (hasIndex : Bool) (rest : Bytes) : Reading :=
      { r with rest, usage, hasIndex, isGood := false }
    match Bytes.splitAt? ']'.toUInt8 (r.rest.drop 1) with
    | none => bad false (r.rest.drop 1)
    | some (inside, rest) =>
      match number inside with
      | (some n, []) =>
        if 1 ≤ n && n ≤ args.length then
          { r with rest, usage := ⟨n - 1, true⟩, hasIndex := true }
        else bad true rest
      | _ => bad false rest

/-- The value of a star, and what is used behind it. -/
def starValue (args : List Argument) (u : Usage) : Option Int × Usage :=
  match args[u.next]? with
  | none => (none, u)
  | some (.number n) => (if n.natAbs ≤ limit then some n else none, { u with next := u.next + 1 })
  | some (.text _) => (none, { u with next := u.next + 1 })

/-- Reads a width, if there is one. -/
def readWidth (args : List Argument) (spec : Spec) (r : Reading) : Spec × Reading :=
  if r.rest.head? == some '*'.toUInt8 then
    let (value, usage) := starValue args r.usage
    let r := { r with rest := r.rest.drop 1, usage, hasIndex := false }
    match value with
    | none => (spec, { r with complaint := "%!(BADWIDTH)" })
    | some n =>
      let spec := { spec with width := some n.natAbs }
      (if n < 0 then { spec with minus := true, zero := false } else spec, r)
  else
    let (width, rest) := number r.rest
    ({ spec with width }, { r with rest, isGood := r.isGood && !(r.hasIndex && width.isSome) })

/-- Reads a precision, if there is one.  Something must stand behind its point. -/
def readPrecision (args : List Argument) (spec : Spec) (r : Reading) : Spec × Reading :=
  if r.rest.head? != some '.'.toUInt8 || r.rest.length < 2 then (spec, r)
  else
    let r := readIndex args { r with rest := r.rest.drop 1, isGood := r.isGood && !r.hasIndex }
    if r.rest.head? == some '*'.toUInt8 then
      let (value, usage) := starValue args r.usage
      let r := { r with rest := r.rest.drop 1, usage, hasIndex := false }
      match value.filter (0 ≤ ·) with
      | none => (spec, { r with complaint := "%!(BADPREC)" })
      | some n => ({ spec with precision := some n.toNat }, r)
    else
      let (precision, rest) := number r.rest
      ({ spec with precision := some (precision.getD 0) }, { r with rest })

/-- A code point at the start of a text, and what stands behind it. -/
def verb? (s : Bytes) : Option (Nat × Bytes) :=
  match s.glyphs with
  | [] => none
  | g :: _ => some (g.code?.getD 0xFFFD, s.drop g.bytes.length)

-- ── Slots ───────────────────────────────────────────────────────────────────────

/-- The letter for the usual way of showing an argument. -/
def usual : Nat := 'v'.toNat

/-- A way of showing an argument with what its letter changes. -/
def adapted (spec : Spec) (verb : Nat) : Spec :=
  if verb = usual then { spec with literal := spec.sharp, sharp := false, plus := false } else spec

/-- A slot behind its percent sign, what is used behind it, and the rest of the
    format. -/
def read (args : List Argument) (usage : Usage) (s : Bytes) : Slot × Usage × Bytes :=
  let (spec, rest) := flags .plain s
  let r := readIndex args ⟨rest, usage, false, true, ""⟩
  let (spec, r) := readWidth args spec r
  let (spec, r) := readPrecision args spec r
  let r := if r.hasIndex then r else readIndex args r
  match verb? r.rest with
  | none => (.incomplete, r.usage, [])
  | some (verb, rest) =>
    if verb = '%'.toNat then (.percent, r.usage, rest)
    else if !r.isGood then (.badIndex verb, r.usage, rest)
    else
      let behind := { r.usage with next := r.usage.next + 1 }
      match args[r.usage.next]? with
      | none => (.missing verb, behind, rest)
      | some a => (.argument r.complaint (adapted spec verb) verb a, behind, rest)

end Slot

end TwoPass
