import TwoPass.Machine.Opcode
import TwoPass.Machine.Operand

/-!
# Instructions

An instruction has an opcode, four bits and two operands.  The bits follow from the
opcode and the first operand wherever an instruction is made from those; a record built
field by field may hold any bits.
-/

namespace TwoPass

/-- An instruction: `high` and `low` say which bytes of the first operand are
    addressed, `signed` and `setFlags` how the operation works. -/
structure Instruction where
  opcode : Opcode
  high : Bool
  low : Bool
  signed : Bool
  setFlags : Bool
  a : Operand
  b : Operand
  deriving DecidableEq, Repr, Inhabited

namespace Instruction

/-- The instruction whose width bits are those of the register in the first operand and
    whose other bits are those of the opcode. -/
def derive (opcode : Opcode) (a b : Operand) : Instruction where
  opcode
  high := a.register.isHigh
  low := a.register.isLow
  signed := opcode.isSigned
  setFlags := opcode.setsFlags
  a
  b

/-- The instruction with derived bits, if the first operand is a register. -/
def make? (opcode : Opcode) (a b : Operand) : Option Instruction :=
  if a.isRegister then some (derive opcode a b) else none

/-- What is said of a first operand that is no register. -/
def refusal (opcode : Opcode) (a : Operand) : String :=
  s!"cpu: {opcode.name} operand A {a.text} is not a register"

/-- The text of an instruction: missing operands at the end are left out. -/
def text (i : Instruction) : String :=
  if i.b ≠ .none then s!"{i.opcode.name} {i.a.text}, {i.b.text}"
  else if i.a ≠ .none then s!"{i.opcode.name} {i.a.text}"
  else i.opcode.name

end Instruction

end TwoPass
