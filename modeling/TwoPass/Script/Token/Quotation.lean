import TwoPass.Script.Token.Number
import TwoPass.Text.Utf8

/-!
# String literals of scripts

A string stands between one quote or three on either side.  Behind a backslash stands a
character that could not stand for itself, or the number of a byte or a code point; in raw
strings a backslash is one.
-/

namespace TwoPass

namespace Script

namespace Scanner

/-- The UTF-8 encoding of a list of characters. -/
def encode (cs : List Char) : Bytes := cs.flatMap String.utf8EncodeChar

/-- The text between two quotes on one line, with its escapes still in it. -/
def scanQuoted (quote : Char) : List Char → List Char → Option (List Char × List Char)
  | _, [] => none
  | acc, c :: rest =>
    if c == quote then some (acc.reverse, rest)
    else if c == '\n' then none
    else if c == '\\' then
      match rest with
      | [] => none
      | d :: rest => scanQuoted quote (d :: c :: acc) rest
    else scanQuoted quote (c :: acc) rest

/-- The text up to three quotes in a row, with its escapes still in it. -/
def scanTriple (quote : Char) : Nat → List Char → List Char → Option (List Char × List Char)
  | _, _, [] => none
  | count, acc, c :: rest =>
    if c == quote then
      if count == 2 then some ((acc.drop 2).reverse, rest)
      else scanTriple quote (count + 1) (c :: acc) rest
    else if c == '\\' then
      match rest with
      | [] => none
      | d :: rest => scanTriple quote 0 (d :: c :: acc) rest
    else scanTriple quote 0 (c :: acc) rest

/-- The characters that stand for themselves, or for a control character, behind a
    backslash. -/
def simpleEscapes : List (Char × Nat) :=
  [ ('a', 7), ('b', 8), ('f', 12), ('n', 10), ('r', 13), ('t', 9), ('v', 11), ('\\', 92),
    ('\'', 39), ('"', 34) ]

/-- A byte given by its number.  In text it must be ASCII. -/
def escapedByte (isData : Bool) (n : Nat) : Option Bytes :=
  if n < 128 || (isData && n < 256) then some [n.toUInt8] else none

/-- A code point given by a fixed number of hexadecimal digits. -/
def escapedCode (count : Nat) (cs : List Char) : Option Bytes :=
  let digits := cs.take count
  let code := valueOf 16 digits
  if digits.length == count && digits.all (isDigitOf 16) && Glyph.isScalarValue code then
    some (Bytes.ofCode code)
  else none

/-- What stands behind a backslash: its bytes, and how many characters it takes. -/
def escape (isData : Bool) : List Char → Option (Bytes × Nat)
  | [] => none
  | '\n' :: _ => some ([], 1)
  | 'x' :: rest =>
    let digits := rest.take 2
    if digits.length == 2 && digits.all (isDigitOf 16) then
      (escapedByte isData (valueOf 16 digits)).map (·, 3)
    else none
  | 'u' :: rest => (escapedCode 4 rest).map (·, 5)
  | 'U' :: rest => (escapedCode 8 rest).map (·, 9)
  | c :: rest =>
    if isDigitOf 8 c then
      let digits := c :: (rest.take 2).takeWhile (isDigitOf 8)
      (escapedByte isData (valueOf 8 digits)).map (·, digits.length)
    else (simpleEscapes.lookup c).map fun n => ([n.toUInt8], 1)

/-- The bytes of a literal with its escapes resolved.  The number says how many characters
    belong to an escape already resolved. -/
def unescape (isData : Bool) : Nat → Bytes → List Char → Option Bytes
  | _, acc, [] => some acc.reverse
  | skip + 1, acc, _ :: rest => unescape isData skip acc rest
  | 0, acc, c :: rest =>
    if c == '\\' then
      match escape isData rest with
      | none => none
      | some (bytes, count) => unescape isData count (bytes.reverse ++ acc) rest
    else unescape isData 0 ((String.utf8EncodeChar c).reverse ++ acc) rest

/-- A string literal from its first quote on. -/
def scanString (isRaw isData : Bool) : List Char → Option (Token × List Char)
  | [] => none
  | quote :: rest => do
    let (body, rest) ←
      if rest.take 2 = [quote, quote] then scanTriple quote 0 [] (rest.drop 2)
      else scanQuoted quote [] rest
    let bytes ← if isRaw then some (encode body) else unescape isData 0 [] body
    return (if isData then .data bytes else .text bytes, rest)

end Scanner

end Script

end TwoPass
