import TwoPass.Locale.Numbers
import TwoPass.Messages.Catalogue
import TwoPass.Messages.Slot
import TwoPass.Text.Quoted

/-!
# Rendering arguments

A number is shown with its digits set apart as in a language and region, or plainly in a base;
a text as it is, in quotes or in hexadecimal.  What is shorter than the width is filled up.
-/

namespace TwoPass

namespace Spec

/-- A text filled up to the width, in front or behind. -/
def pad (s : Spec) (text : Bytes) : Bytes :=
  let fill := if s.zero then '0'.toUInt8 else ' '.toUInt8
  let missing := List.replicate (s.width.getD 0 - text.glyphs.length) fill
  if s.minus then text ++ missing else missing ++ text

/-- A text filled up with spaces. -/
def padSpaces (s : Spec) (text : Bytes) : Bytes := pad { s with zero := false } text

/-- The sign of a number in a program. -/
def sign (s : Spec) (n : Int) : Bytes :=
  if n < 0 then ['-'.toUInt8]
  else if s.plus then ['+'.toUInt8]
  else if s.space then [' '.toUInt8]
  else []

/-- The mark of a base in front of digits. -/
def baseMark (s : Spec) (base : Nat) (upper : Bool) (digits : Bytes) : Bytes :=
  if !s.sharp then []
  else if base = 8 then if digits.head? == some '0'.toUInt8 then [] else ['0'.toUInt8]
  else if base = 16 then Bytes.ofString (if upper then "0X" else "0x")
  else []

/-- A text in upper or lower case. -/
def cased (upper : Bool) (s : Bytes) : Bytes :=
  if upper then s.map fun b => if 'a'.toUInt8 ≤ b && b ≤ 'z'.toUInt8 then b - 32 else b else s

/-- A number in a base. -/
def inBase (s : Spec) (base : Nat) (upper : Bool) (n : Int) : Bytes :=
  if s.precision = some 0 && n = 0 then s.padSpaces []
  else
    let digits := cased upper ((Bytes.digits base n.natAbs).map Bytes.digitByte)
    let least := match s.precision, s.width with
      | some p, _ => p
      | none, some w => if s.zero then w - (s.sign n).length else 0
      | none, none => 0
    let digits := List.replicate (least - digits.length) '0'.toUInt8 ++ digits
    s.padSpaces (s.sign n ++ s.baseMark base upper digits ++ digits)

/-- A number as a code point in hexadecimal, and the character itself if it is asked for. -/
def codePoint (s : Spec) (n : Int) : Bytes :=
  let code := (n % 0x10000000000000000).toNat
  let least := max 4 (s.precision.getD 0)
  let digits := cased true (Bytes.hexPadded least code)
  let character :=
    if s.sharp && isPrintableCode code then
      Bytes.ofString " '" ++ Bytes.ofCode code ++ Bytes.ofString "'"
    else []
  s.padSpaces (Bytes.ofString "U+" ++ digits ++ character)

/-- The code point that a number stands for. -/
def codeOf (n : Int) : Nat :=
  if 0 ≤ n && n ≤ 0x10FFFF && Glyph.isScalarValue n.toNat then n.toNat else 0xFFFD

/-- The beginning of a text, of as many characters as the precision allows. -/
def truncated (s : Spec) (text : Bytes) : Bytes :=
  match s.precision with
  | none => text
  | some p => Bytes.ofGlyphs (text.glyphs.take p)

/-- A text in quotes. -/
def quoted (s : Spec) (text : Bytes) : Bytes :=
  let text := s.truncated text
  if s.sharp && Quoted.allowsBackquotes text then s.pad (0x60 :: text ++ [0x60])
  else s.pad (if s.plus then Quoted.quoteAscii text else Quoted.quote text)

/-- The bytes of a text in hexadecimal, with marks and spaces between them if they are asked
    for. -/
def hexadecimal (s : Spec) (upper : Bool) (text : Bytes) : Bytes :=
  let bytes := match s.precision with
    | none => text
    | some p => text.take p
  let mark := if s.sharp then Bytes.ofString (if upper then "0X" else "0x") else []
  let digits (b : UInt8) : Bytes := cased upper (Bytes.toHex [b])
  if bytes.isEmpty then s.pad []
  else if s.space then s.pad (Bytes.join [' '.toUInt8] (bytes.map fun b => mark ++ digits b))
  else s.pad (mark ++ bytes.flatMap digits)

end Spec

/-- How numbers are filled up with spaces: to a width, in front or behind. -/
structure Padding where
  width : Nat
  isBehind : Bool
  deriving DecidableEq, Repr

/-- A text filled up. -/
def Padding.apply (p : Padding) (text : Bytes) : Bytes :=
  let missing := List.replicate (p.width - text.glyphs.length) ' '.toUInt8
  if p.isBehind then text ++ missing else missing ++ text

namespace NumberStyle

/-- How a number is filled up.  A precision alone leaves it as it was for the number before. -/
def padding (before : Option Padding) (s : Spec) : Option Padding :=
  match s.width with
  | some w => some ⟨w % 65536, s.minus⟩
  | none => if s.precision.isSome then before else none

/-- The least number of digits. -/
def leastDigits (s : Spec) : Nat :=
  match s.precision, s.width with
  | some p, _ => p % 256
  | none, some w =>
    let room := if s.plus || s.space then w - 1 else w
    if s.zero && 1 < room then room % 256 else 1
  | none, none => 1

/-- The sign of a number. -/
def sign (style : NumberStyle) (s : Spec) (n : Int) : Bytes :=
  if n < 0 then style.minus
  else if s.plus then style.plus
  else if s.space then [' '.toUInt8]
  else []

/-- A number with its digits set apart. -/
def format (style : NumberStyle) (padding : Option Padding) (s : Spec) (n : Int) : Bytes :=
  let digits := if n = 0 then [] else Bytes.digits 10 n.natAbs
  let zeros := List.replicate (leastDigits s - digits.length) 0
  let text := style.sign s n ++ style.digits (zeros ++ digits)
  match padding with
  | none => text
  | some p => p.apply text

end NumberStyle

namespace Argument

/-- The name of the type of an argument. -/
def typeName : Argument → Bytes
  | .text _ => Bytes.ofString "string"
  | .number _ => Bytes.ofString "int"

/-- Whether the digits of an argument are set apart by a letter. -/
def isSetApart (s : Spec) (verb : Nat) : Argument → Bool
  | .text _ => false
  | .number _ => (verb = Slot.usual || verb = 'd'.toNat) && !s.sharp && !s.literal

/-- A number as a letter asks, if the letter fits. -/
def renderNumber? (style : NumberStyle) (padding : Option Padding) (s : Spec) (verb : Nat)
    (n : Int) : Option Bytes :=
  if isSetApart s verb (.number n) then some (style.format padding s n)
  else match Char.ofNat verb with
    | 'v' => some (s.inBase 10 false n)
    | 'd' => some (s.inBase 10 false n)
    | 'b' => some (s.inBase 2 false n)
    | 'o' => some (s.inBase 8 false n)
    | 'x' => some (s.inBase 16 false n)
    | 'X' => some (s.inBase 16 true n)
    | 'c' => some (s.pad (Bytes.ofCode (Spec.codeOf n)))
    | 'q' =>
      if 0 ≤ n && n ≤ 0x10FFFF then some (s.pad (Quoted.quoteSingle s.plus n.toNat)) else none
    | 'U' => some (s.codePoint n)
    | _ => none

/-- A text as a letter asks, if the letter fits. -/
def renderText? (language : Language) (s : Spec) (verb : Nat) (text : Bytes) : Option Bytes :=
  match Char.ofNat verb with
  | 'v' => some (if s.literal then s.quoted text else s.pad (s.truncated text))
  | 's' => some (s.pad (s.truncated text))
  | 'q' => some (s.quoted text)
  | 'x' => some (s.hexadecimal false text)
  | 'X' => some (s.hexadecimal true text)
  | 'm' => some (Catalogue.text language text)
  | _ => none

/-- An argument as a letter asks, if the letter fits. -/
def render? (language : Language) (style : NumberStyle) (padding : Option Padding) (s : Spec)
    (verb : Nat) (a : Argument) : Option Bytes :=
  if verb = 'T'.toNat then some (s.pad (s.truncated a.typeName))
  else match a with
    | .number n => renderNumber? style padding s verb n
    | .text t => renderText? language s verb t

/-- An argument with the name of its type, as it is shown where it does not fit. -/
def renderTyped (language : Language) (style : NumberStyle) (padding : Option Padding) (s : Spec)
    (a : Argument) : Bytes :=
  a.typeName ++ ['='.toUInt8] ++ (a.render? language style padding s Slot.usual).getD []

end Argument

end TwoPass
