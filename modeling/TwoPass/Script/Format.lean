import TwoPass.Script.Collection
import TwoPass.Script.Display

/-!
# Formats — texts with places for values

A percent sign and a letter stand for a value written as the letter says.  Values are
taken in order from a tuple, or by name from a dictionary.
-/

namespace TwoPass

namespace Script

/-- A whole number in a base, with its sign. -/
def inBase (base : Nat) (upper : Bool) (n : Int) : Bytes :=
  let digits := (Bytes.digits base n.natAbs).map fun d =>
    let b := Bytes.digitByte d
    if upper && 'a'.toUInt8 ≤ b then b - 32 else b
  if n < 0 then '-'.toUInt8 :: digits else digits

/-- A single code point given by its number or as a text. -/
def codePoint? : Value → Option Bytes
  | .integer n =>
    if 0 ≤ n && n ≤ 0x10FFFF then
      some (Bytes.ofCode (if Glyph.isScalarValue n.toNat then n.toNat else 0xFFFD))
    else none
  | .text t =>
    match t.glyphs with
    | [.scalar _ bytes] => some bytes
    | [.stray _] => some (Bytes.ofCode 0xFFFD)
    | _ => none
  | _ => none

/-- A number as a real one, however large. -/
def Value.asReal? : Value → Option Float
  | .real x => some x
  | .integer n => some (Floating.ofInt n)
  | _ => none

/-- One value written as a conversion letter asks. -/
def Store.convert (s : Store) (letter : UInt8) (v : Value) : Option Bytes :=
  match Char.ofNat letter.toNat with
  | 's' => match v with
    | .text t => some t
    | _ => some (s.write v)
  | 'r' => some (s.write v)
  | 'd' => (wholeOf? v).map Bytes.decimal
  | 'i' => (wholeOf? v).map Bytes.decimal
  | 'o' => (wholeOf? v).map (inBase 8 false)
  | 'x' => (wholeOf? v).map (inBase 16 false)
  | 'X' => (wholeOf? v).map (inBase 16 true)
  | 'e' => v.asReal?.map Floating.exponential
  | 'E' => v.asReal?.map fun x => Floating.upperExponent (Floating.exponential x)
  | 'f' => v.asReal?.map Floating.fixed
  | 'F' => v.asReal?.map fun x => (Floating.endless? x).getD (Bytes.ofString "%F")
  | 'g' => v.asReal?.map Floating.text
  | 'G' => v.asReal?.map fun x => Floating.upperExponent (Floating.text x)
  | 'c' => codePoint? v
  | '%' => some ['%'.toUInt8]
  | _ => none

/-- Text with its conversions filled in.  Values are taken in order, or by name from a
    dictionary; every value of a tuple must be used.  The fuel is the length of the text. -/
def Store.fill (s : Store) (named : Option (Bytes → Option Value)) :
    Nat → List Value → Bytes → Bytes → Option Bytes
  | _, values, acc, [] => if values.isEmpty || named.isSome then some acc.reverse else none
  | 0, _, _, _ :: _ => none
  | fuel + 1, values, acc, b :: rest =>
    if b != '%'.toUInt8 then s.fill named fuel values (b :: acc) rest
    else match rest with
      | [] => none
      | c :: after =>
        if c == '%'.toUInt8 then s.fill named fuel values (c :: acc) after
        else if c == '('.toUInt8 then
          match Bytes.splitAt? ')'.toUInt8 after with
          | some (key, letter :: after) => do
            let piece ← s.convert letter (← (← named) key)
            s.fill named fuel (values.drop 1) (piece.reverse ++ acc) after
          | _ => none
        else match values with
          | [] => none
          | v :: values => do
            let piece ← s.convert c v
            s.fill named fuel values (piece.reverse ++ acc) after

/-- A format applied to a value, or to the values of a tuple. -/
def Store.format (s : Store) (pattern : Bytes) (v : Value) : Option Bytes :=
  let values := match v with
    | .tuple items => items
    | _ => [v]
  let named := match v with
    | .dict r => some fun key => s.lookup r (.text key)
    | _ => none
  s.fill named pattern.length values [] pattern

end Script

end TwoPass
