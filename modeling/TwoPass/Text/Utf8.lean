import TwoPass.Text.Bytes

/-!
# Code points — byte text read as UTF-8

Blanks and letter case are properties of code points, so text is read as a list of
`Glyph`s: scalar values with their encodings, and bytes that start no valid encoding.
Nothing is lost: the bytes of the glyphs are the bytes of the text.

Reading goes from the right.  A continuation byte is stray until a leading byte in
front of it takes it up, and a byte that is no continuation byte always starts a
glyph, so reading from the right and from the left agree.
-/

namespace TwoPass

/-- One step of reading text: a scalar value with its encoding, or a byte that starts
    no valid encoding. -/
inductive Glyph where
  | scalar (code : Nat) (bytes : Bytes)
  | stray (byte : UInt8)
  deriving DecidableEq, Repr

namespace Glyph

/-- The bytes a glyph was read from. -/
def bytes : Glyph → Bytes
  | scalar _ bytes => bytes
  | stray byte => [byte]

/-- The code point of a glyph, if it is one. -/
def code? : Glyph → Option Nat
  | scalar code _ => some code
  | stray _ => none

/-- The byte of a stray glyph that could continue an encoding. -/
def continuation? : Glyph → Option UInt8
  | scalar _ _ => none
  | stray byte => if 0x80 ≤ byte && byte < 0xC0 then some byte else none

/-- What a leading byte says: how many continuation bytes follow, its own bits of the
    code point, and the least code point that needs that many bytes. -/
structure Lead where
  tail : Nat
  bits : Nat
  least : Nat

/-- The leading byte of an encoding of one to four bytes. -/
def lead? (b : UInt8) : Option Lead :=
  let n := b.toNat
  if n < 0x80 then some ⟨0, n, 0⟩
  else if n < 0xC0 then none
  else if n < 0xE0 then some ⟨1, n - 0xC0, 0x80⟩
  else if n < 0xF0 then some ⟨2, n - 0xE0, 0x800⟩
  else if n < 0xF8 then some ⟨3, n - 0xF0, 0x10000⟩
  else none

/-- A code point that is no surrogate and not beyond the last plane. -/
def isScalarValue (code : Nat) : Bool := code < 0xD800 || (0xE000 ≤ code && code ≤ 0x10FFFF)

/-- Puts a byte in front of text that has been read: a leading byte takes up the
    continuation bytes behind it if together they are the shortest encoding of a
    scalar value, and is stray otherwise. -/
def push (b : UInt8) (gs : List Glyph) : List Glyph :=
  match lead? b with
  | none => stray b :: gs
  | some lead =>
    let tail := (gs.take lead.tail).filterMap continuation?
    let code := tail.foldl (fun n c => n * 64 + (c.toNat - 0x80)) lead.bits
    if tail.length == lead.tail && lead.least ≤ code && isScalarValue code then
      scalar code (b :: tail) :: gs.drop lead.tail
    else stray b :: gs

end Glyph

namespace Bytes

/-- A text as a list of glyphs. -/
def glyphs (s : Bytes) : List Glyph := s.foldr Glyph.push []

/-- The text that a list of glyphs was read from. -/
def ofGlyphs (gs : List Glyph) : Bytes := gs.flatMap Glyph.bytes

/-- The UTF-8 encoding of one scalar value. -/
def ofCode (code : Nat) : Bytes := String.utf8EncodeChar (Char.ofNat code)

/-- Whether the whole text is valid UTF-8. -/
def isUtf8 (s : Bytes) : Bool := s.glyphs.all fun g => g.code?.isSome

end Bytes

end TwoPass
