/-!
# Byte text — source files as they are stored

Source lines, label names and messages are sequences of bytes that need not be valid
UTF-8, so every count and every cut is made in bytes.  Names and keywords of the
assembly language are ASCII; this file holds the ASCII classes they are built from
and the few ways in which numbers and bytes are written out.
-/

namespace TwoPass

/-- Text as it stands in a file: bytes, which need not be valid UTF-8. -/
abbrev Bytes := List UInt8

namespace Bytes

/-- Whether two texts have the same bytes. -/
def isSame : Bytes → Bytes → Bool
  | [], [] => true
  | a :: s, b :: t => a == b && isSame s t
  | _, _ => false

theorem isSame_iff (s t : Bytes) : isSame s t = true ↔ s = t := by
  induction s generalizing t with
  | nil => cases t <;> simp [isSame]
  | cons a s ih => cases t <;> simp [isSame, ih]

/-- Texts are compared byte by byte. -/
instance : DecidableEq Bytes := fun s t => decidable_of_iff _ (isSame_iff s t)

/-- The UTF-8 encoding of a string. -/
def ofString (s : String) : Bytes := s.toList.flatMap String.utf8EncodeChar

/-- An ASCII decimal digit. -/
def isDigit (b : UInt8) : Bool := '0'.toUInt8 ≤ b && b ≤ '9'.toUInt8

/-- An ASCII letter of either case. -/
def isLetter (b : UInt8) : Bool :=
  ('a'.toUInt8 ≤ b && b ≤ 'z'.toUInt8) || ('A'.toUInt8 ≤ b && b ≤ 'Z'.toUInt8)

/-- A byte of an identifier: an ASCII letter, an ASCII digit or an underscore. -/
def isWord (b : UInt8) : Bool := isLetter b || isDigit b || b == '_'.toUInt8

/-- The part of a text before the first occurrence of a byte, and the part behind it;
    `none` if the byte does not occur. -/
def splitAt? (b : UInt8) (s : Bytes) : Option (Bytes × Bytes) :=
  match s.dropWhile (· != b) with
  | [] => none
  | _ :: rest => some (s.takeWhile (· != b), rest)

/-- The text without one given ending, or as it is if it does not end that way. -/
def dropEnding (s ending : Bytes) : Bytes :=
  if ending.isSuffixOf s then s.take (s.length - ending.length) else s

/-- The text without the bytes at its end that satisfy a test. -/
def dropEndWhile (p : UInt8 → Bool) (s : Bytes) : Bytes := (s.reverse.dropWhile p).reverse

/-- The pieces between the occurrences of a byte: one more than there are occurrences. -/
def splitOn (b : UInt8) (s : Bytes) : List Bytes :=
  s.foldr (fun c pieces =>
    if c == b then [] :: pieces
    else match pieces with
      | [] => [[c]]
      | p :: rest => (c :: p) :: rest) [[]]

/-- The digits of a number in a base of at least two, most significant first. -/
def digits (base n : Nat) : List Nat :=
  if _h : base < 2 ∨ n < base then [n] else digits base (n / base) ++ [n % base]
termination_by n
decreasing_by exact Nat.div_lt_self (by omega) (by omega)

/-- The byte that writes a digit below sixteen. -/
def digitByte (d : Nat) : UInt8 :=
  if d < 10 then '0'.toUInt8 + d.toUInt8 else 'a'.toUInt8 + (d - 10).toUInt8

/-- A number in decimal. -/
def decimalNat (n : Nat) : Bytes := (digits 10 n).map digitByte

/-- An integer in decimal, with a leading minus if it is negative. -/
def decimal : Int → Bytes
  | .ofNat n => decimalNat n
  | .negSucc n => '-'.toUInt8 :: decimalNat (n + 1)

/-- A number in hexadecimal, in lower case. -/
def hexNat (n : Nat) : Bytes := (digits 16 n).map digitByte

/-- An integer in hexadecimal, padded with zeros behind its sign to a width that
    counts the sign. -/
def hexPadded (width : Nat) (n : Int) : Bytes :=
  let sign : Bytes := if n < 0 then ['-'.toUInt8] else []
  let body := hexNat n.natAbs
  sign ++ List.replicate (width - sign.length - body.length) '0'.toUInt8 ++ body

/-- Each byte as two hexadecimal digits. -/
def toHex (s : Bytes) : Bytes :=
  s.flatMap fun b => [digitByte (b.toNat / 16), digitByte (b.toNat % 16)]

/-- The lowest `size` bytes of a number, most significant first. -/
def bigEndian : Nat → Nat → Bytes
  | 0, _ => []
  | size + 1, n => bigEndian size (n / 256) ++ [n.toUInt8]

/-- Texts joined with a separator between them. -/
def join (separator : Bytes) (pieces : List Bytes) : Bytes := (pieces.intersperse separator).flatten

/-- Bytewise order, a proper beginning before the whole. -/
def le (a b : Bytes) : Bool := !(List.lex b a)

end Bytes

end TwoPass
