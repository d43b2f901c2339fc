import TwoPass.Fault
import TwoPass.Symbols.Table

/-!
# Label references

`@` with the identifier bytes behind it, of which there may be none, refers to a label.
A line is cut into its references and the bytes between them; substitution writes the
address of each label in decimal and leaves every other byte as it is.  The leftmost
reference to an unknown label is the fault.
-/

namespace TwoPass

namespace Reference

/-- A part of a line: a byte that stands for itself, or a reference to a label. -/
inductive Piece where
  | verbatim (byte : UInt8)
  | label (name : Bytes)
  deriving DecidableEq, Repr

/-- The byte that a reference starts with. -/
def mark : UInt8 := '@'.toUInt8

namespace Piece

/-- The bytes that a part was cut from. -/
def text : Piece → Bytes
  | verbatim byte => [byte]
  | label name => mark :: name

/-- The byte of a part that can belong to a name. -/
def nameByte? : Piece → Option UInt8
  | verbatim byte => if Bytes.isWord byte then some byte else none
  | label _ => none

/-- Puts a byte in front of a line already cut; a mark takes up the name behind it. -/
def push (b : UInt8) (ps : List Piece) : List Piece :=
  if b = mark then
    label ((ps.takeWhile fun p => p.nameByte?.isSome).filterMap nameByte?)
      :: ps.dropWhile fun p => p.nameByte?.isSome
  else verbatim b :: ps

/-- A part with the address of its label in its place. -/
def resolve (labels : LabelTable) : Piece → Except Fault Bytes
  | verbatim byte => .ok [byte]
  | label name =>
    match labels.address? name with
    | some address => .ok (Bytes.decimal address)
    | none => .error (.labelUnknown name)

end Piece

/-- A line cut into references and single bytes. -/
def pieces (line : Bytes) : List Piece := line.foldr Piece.push []

/-- A line with addresses in place of its references. -/
def substitute (labels : LabelTable) (line : Bytes) : Except Fault Bytes := do
  return (← (pieces line).mapM (Piece.resolve labels)).flatten

end Reference

end TwoPass
