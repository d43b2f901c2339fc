import TwoPass.Enumeration
import TwoPass.Text.LetterCase

/-!
# Opcodes

An opcode fixes the shape of its operands and two bits of the instruction word: whether
the operation is signed, and whether it sets the status flags.
-/

namespace TwoPass

/-- The operands that an opcode takes. -/
inductive Shape where
  | none
  | reg
  | regReg
  | regImm5
  | regImm16
  deriving DecidableEq, Repr

namespace Shape

/-- How shapes are written, by number. -/
def enumeration : Enumeration :=
  ⟨"OperandClass", ["none", "reg", "reg,reg", "reg,imm5", "reg,imm16"]⟩

/-- The number of a shape. -/
def number : Shape → Int
  | none => 0
  | reg => 1
  | regReg => 2
  | regImm5 => 3
  | regImm16 => 4

/-- The name of a shape. -/
def name (s : Shape) : String := enumeration.name s.number

end Shape

/-- An opcode, by number. -/
structure Opcode where
  number : Int
  deriving DecidableEq, Repr, Inhabited

namespace Opcode

/-- What is known of an opcode with a mnemonic. -/
structure Info where
  mnemonic : String
  shape : Shape
  signed : Bool
  setsFlags : Bool

/-- The opcodes in the order of their numbers. -/
def table : List Info :=
  [ ⟨"nop", .none, false, false⟩,
    ⟨"add", .regReg, true, true⟩,
    ⟨"addc", .reg, true, true⟩,
    ⟨"inc", .reg, true, true⟩,
    ⟨"sub", .regReg, true, true⟩,
    ⟨"subb", .reg, true, true⟩,
    ⟨"dec", .reg, true, true⟩,
    ⟨"cmp", .regReg, true, true⟩,
    ⟨"neg", .reg, true, true⟩,
    ⟨"move", .regReg, false, false⟩,
    ⟨"push", .reg, false, false⟩,
    ⟨"pop", .reg, false, false⟩,
    ⟨"pusha", .none, false, false⟩,
    ⟨"popa", .none, false, false⟩,
    ⟨"pushf", .none, false, false⟩,
    ⟨"popf", .none, false, true⟩,
    ⟨"swap", .regReg, false, false⟩,
    ⟨"in", .regImm5, false, false⟩,
    ⟨"out", .regImm5, false, false⟩,
    ⟨"load", .regReg, false, false⟩,
    ⟨"movi", .regImm16, false, false⟩,
    ⟨"mul", .regReg, true, true⟩,
    ⟨"mulu", .regReg, false, true⟩,
    ⟨"div", .regReg, true, true⟩,
    ⟨"divu", .regReg, false, true⟩,
    ⟨"csign", .reg, true, true⟩,
    ⟨"not", .reg, false, true⟩,
    ⟨"and", .regReg, false, true⟩,
    ⟨"or", .regReg, false, true⟩,
    ⟨"xor", .regReg, false, true⟩,
    ⟨"sra", .regReg, true, true⟩,
    ⟨"srl", .regReg, false, true⟩,
    ⟨"sll", .regReg, false, true⟩,
    ⟨"clear", .reg, false, true⟩,
    ⟨"call", .reg, false, false⟩,
    ⟨"ret", .none, false, false⟩,
    ⟨"jump", .reg, false, false⟩,
    ⟨"jeq", .reg, false, false⟩,
    ⟨"jne", .reg, false, false⟩,
    ⟨"jgt", .reg, false, false⟩,
    ⟨"jle", .reg, false, false⟩,
    ⟨"jgte", .reg, false, false⟩,
    ⟨"jlte", .reg, false, false⟩,
    ⟨"jzro", .reg, false, false⟩,
    ⟨"jnzro", .reg, false, false⟩,
    ⟨"jovf", .reg, false, false⟩,
    ⟨"jcry", .reg, false, false⟩,
    ⟨"scry", .none, false, true⟩,
    ⟨"ccry", .none, false, true⟩,
    ⟨"eitr", .none, false, false⟩,
    ⟨"ditr", .none, false, false⟩,
    ⟨"intr", .regImm5, false, false⟩,
    ⟨"into", .regImm5, false, false⟩,
    ⟨"iret", .none, false, false⟩,
    ⟨"store", .regReg, false, false⟩,
    ⟨"addu", .regReg, false, true⟩,
    ⟨"subu", .regReg, false, true⟩ ]

/-- The opcode that loads a 16-bit immediate, the only one that takes two words. -/
def movi : Opcode := ⟨20⟩

/-- What is known of an opcode, if its number is in range. -/
def info? (op : Opcode) : Option Info := Enumeration.lookup? table op.number

/-- How opcodes are written. -/
def enumeration : Enumeration := ⟨"Opcode", table.map Info.mnemonic⟩

/-- The mnemonic of an opcode. -/
def name (op : Opcode) : String := enumeration.name op.number

/-- Whether the number is that of a defined opcode. -/
def isDefined (op : Opcode) : Bool := op.info?.isSome

/-- The operands that an opcode takes; an undefined one takes none. -/
def shape (op : Opcode) : Shape := (op.info?.map Info.shape).getD .none

/-- Whether the operation is on two's-complement values. -/
def isSigned (op : Opcode) : Bool := op.info?.any Info.signed

/-- Whether the operation updates the status flags. -/
def setsFlags (op : Opcode) : Bool := op.info?.any Info.setsFlags

/-- The opcode field of an instruction word: the lowest six bits of the number. -/
def code (op : Opcode) : BitVec 6 := BitVec.ofInt 6 op.number

/-- The opcode with a numeric code. -/
def ofCode? (code : Nat) : Option Opcode :=
  if code < table.length then some ⟨code⟩ else none

/-- The opcode whose mnemonic a word of source text spells, whatever its case. -/
def ofWord? (word : Bytes) : Option Opcode :=
  word.lowerAscii?.bind fun name =>
    (table.findIdx? fun i => Bytes.ofString i.mnemonic == name).map fun n => ⟨n⟩

end Opcode

end TwoPass
