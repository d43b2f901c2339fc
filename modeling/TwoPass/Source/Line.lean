import TwoPass.Text.Blank

/-!
# Lines

Source text is cut at newlines, and a carriage return in front of a newline is dropped.
A line has a bounded length.  Lines are numbered from one by their position; they are
trimmed, and those with nothing on them are dropped without changing the numbers of the
others.
-/

namespace TwoPass

/-- A line with something on it, under its number. -/
structure SourceLine where
  number : Nat
  text : Bytes
  deriving DecidableEq, Repr

namespace SourceLine

/-- The lines with something on them, trimmed and numbered by position. -/
def ofTexts (texts : List Bytes) : List SourceLine :=
  (texts.zipIdx 1).filterMap fun (text, number) =>
    let text := text.trim
    if text = [] then none else some ⟨number, text⟩

end SourceLine

namespace Bytes

/-- The pieces of a text between newlines.  A newline ends a piece, so there is no empty
    piece behind the last one. -/
def rawLines (s : Bytes) : List Bytes :=
  s.foldr (fun b lines =>
    if b == '\n'.toUInt8 then [] :: lines
    else match lines with
      | [] => [[b]]
      | l :: rest => (b :: l) :: rest) []

/-- The length, in bytes and without its newline, that a line must stay below. -/
def lineLimit : Nat := 65536

/-- The lines of a text; `none` if one of them is too long. -/
def lines? (s : Bytes) : Option (List Bytes) :=
  let raw := s.rawLines
  if raw.all (·.length < lineLimit) then some (raw.map fun l => l.dropEnding ['\r'.toUInt8])
  else none

end Bytes

end TwoPass
