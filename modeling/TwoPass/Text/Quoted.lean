import TwoPass.Text.Printable
import TwoPass.Text.Utf8

/-!
# Quoted text

A text stands between double quotes; quotes and backslashes inside are escaped, and what
cannot be printed is given by its number.
-/

namespace TwoPass

namespace Quoted

/-- The letters that stand for control characters behind a backslash. -/
def controlLetters : List (Nat × Char) :=
  [(7, 'a'), (8, 'b'), (12, 'f'), (10, 'n'), (13, 'r'), (9, 't'), (11, 'v')]

/-- A number in hexadecimal of a fixed width behind a backslash and a letter. -/
def numbered (letter : Char) (width n : Nat) : Bytes :=
  ['\\'.toUInt8, letter.toUInt8] ++ Bytes.hexPadded width n

/-- A code point inside a kind of quotes, where some code points stand for themselves. -/
def escape (mark : Char) (isPlain : Nat → Bool) (code : Nat) : Bytes :=
  if code == mark.toNat || code == 92 then ['\\'.toUInt8, code.toUInt8]
  else if isPlain code then Bytes.ofCode code
  else match controlLetters.lookup code with
    | some letter => ['\\'.toUInt8, letter.toUInt8]
    | none =>
      if code < 32 || code == 127 then numbered 'x' 2 code
      else if code < 0x10000 then numbered 'u' 4 code
      else numbered 'U' 8 code

/-- A code point inside quotes. -/
def quoteCode (code : Nat) : Bytes := escape '"' isPrintableCode code

/-- A glyph inside quotes. -/
def quoteGlyph : Glyph → Bytes
  | .scalar code _ => quoteCode code
  | .stray byte => numbered 'x' 2 byte.toNat

/-- A text in quotes. -/
def quote (s : Bytes) : Bytes :=
  ['"'.toUInt8] ++ s.glyphs.flatMap quoteGlyph ++ ['"'.toUInt8]

/-- Whether a code point is printable ASCII. -/
def isPlainAscii (code : Nat) : Bool := code < 128 && isPrintableCode code

/-- A text in quotes, with nothing but ASCII in them. -/
def quoteAscii (s : Bytes) : Bytes :=
  let inside : Glyph → Bytes
    | .scalar code _ => escape '"' isPlainAscii code
    | .stray byte => numbered 'x' 2 byte.toNat
  ['"'.toUInt8] ++ s.glyphs.flatMap inside ++ ['"'.toUInt8]

/-- A code point in single quotes. -/
def quoteSingle (asciiOnly : Bool) (code : Nat) : Bytes :=
  let isPlain := if asciiOnly then isPlainAscii else isPrintableCode
  let code := if Glyph.isScalarValue code then code else 0xFFFD
  ['\''.toUInt8] ++ escape '\'' isPlain code ++ ['\''.toUInt8]

/-- Whether a text can stand between backquotes, where there are no escapes. -/
def allowsBackquotes (s : Bytes) : Bool :=
  s.glyphs.all fun g =>
    g.code?.any fun c => c != 0xFEFF && c != 0x60 && c != 127 && (32 ≤ c || c == 9)

end Quoted

end TwoPass
