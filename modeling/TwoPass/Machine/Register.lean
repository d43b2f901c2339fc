import TwoPass.Enumeration
import TwoPass.Text.LetterCase

/-!
# Registers

Eight register families have a 3-bit code.  Four of them, `a` to `d`, can be used at
full width or as a high or low half; the others only at full width.  `none` stands for
a missing operand and has the code of family `a` but no width.  The program counter
and the status flags have no operand encoding, and the status flags cannot be named in
source text at all.
-/

namespace TwoPass

/-- The part of its family that a register names. -/
inductive Width where
  | none
  | full
  | high
  | low
  deriving DecidableEq, Repr

/-- A register, by number. -/
structure Register where
  number : Int
  deriving DecidableEq, Repr, Inhabited

namespace Register

/-- What is known of a register with a name. -/
structure Info where
  name : String
  family : BitVec 3
  width : Width
  encodable : Bool
  addressable : Bool

/-- The registers in the order of their numbers. -/
def table : List Info :=
  [ ⟨"none", 0, .none, true, true⟩,
    ⟨"ax", 0, .full, true, true⟩, ⟨"ah", 0, .high, true, true⟩, ⟨"al", 0, .low, true, true⟩,
    ⟨"bx", 1, .full, true, true⟩, ⟨"bh", 1, .high, true, true⟩, ⟨"bl", 1, .low, true, true⟩,
    ⟨"cx", 2, .full, true, true⟩, ⟨"ch", 2, .high, true, true⟩, ⟨"cl", 2, .low, true, true⟩,
    ⟨"dx", 3, .full, true, true⟩, ⟨"dh", 3, .high, true, true⟩, ⟨"dl", 3, .low, true, true⟩,
    ⟨"rp", 4, .full, true, true⟩, ⟨"fp", 5, .full, true, true⟩,
    ⟨"bp", 6, .full, true, true⟩, ⟨"sp", 7, .full, true, true⟩,
    ⟨"pc", 0, .none, false, true⟩, ⟨"st", 0, .none, false, false⟩ ]

/-- The register that stands for a missing operand. -/
def none : Register := ⟨0⟩

/-- What is known of a register, if its number is in range. -/
def info? (r : Register) : Option Info := Enumeration.lookup? table r.number

/-- How registers are written. -/
def enumeration : Enumeration := ⟨"Register", table.map Info.name⟩

/-- The name of a register. -/
def name (r : Register) : String := enumeration.name r.number

/-- The width of a register; a number out of range has none. -/
def width (r : Register) : Width := (r.info?.map Info.width).getD .none

/-- Whether a register can be encoded as an operand. -/
def isEncodable (r : Register) : Bool := r.info?.any Info.encodable

/-- The family code of a register that can be encoded. -/
def family? (r : Register) : Option (BitVec 3) :=
  r.info?.bind fun i => if i.encodable then some i.family else Option.none

/-- A full register or a high half: the high byte is addressed. -/
def isHigh (r : Register) : Bool := r.width == .full || r.width == .high

/-- A full register or a low half: the low byte is addressed. -/
def isLow (r : Register) : Bool := r.width == .full || r.width == .low

/-- A register used at its full width. -/
def isFull (r : Register) : Bool := r.width == .full

/-- Two registers, or halves of them, that have a width and share a family. -/
def sameFamily (a b : Register) : Bool :=
  a.isEncodable && b.isEncodable && a.width != .none && b.width != .none && a.family? == b.family?

/-- The widths of two operand registers in four bits: low and high of the first, then
    low and high of the second. -/
def pairCode (a b : Register) : BitVec 4 :=
  BitVec.ofBool a.isLow ++ BitVec.ofBool a.isHigh ++ BitVec.ofBool b.isLow ++ BitVec.ofBool b.isHigh

/-- The register that a word of source text names, whatever its case. -/
def ofWord? (word : Bytes) : Option Register :=
  word.lowerAscii?.bind fun name =>
    (table.findIdx? fun i => i.addressable && Bytes.ofString i.name == name).map fun n => ⟨n⟩

end Register

end TwoPass
