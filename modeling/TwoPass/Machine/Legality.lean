import TwoPass.Machine.Encoding

/-!
# Legality — which instructions the machine has

The rules are tried in a fixed order, and the first that is broken is the fault: the
opcode is defined, the first operand is a register, no register operand lacks an
encoding, and then the rules of the opcode's shape.
-/

namespace TwoPass

namespace Register

/-- The pairs of widths that a two-register opcode takes: both full, both the same half,
    or one half of each kind. -/
def pairCodes : List (BitVec 4) := [0b1010, 0b0101, 0b1001, 0b0110, 0b1111]

/-- A register that must stand for a missing operand. -/
def requireNone (r : Register) : Except Fault Unit :=
  if r = .none then .ok () else .error (.registerUse r .mustBeNone)

/-- A register that must not stand for a missing operand. -/
def requireSome (r : Register) : Except Fault Unit :=
  if r = .none then .error (.registerUse r .mustNotBeNone) else .ok ()

/-- Two registers of which neither has a width. -/
def requireNoWidths (a b : Register) : Except Fault Unit :=
  if pairCode a b = 0 then .ok () else .error .registerCode

/-- Two registers that go together: of the same width, or the two halves of one. -/
def requirePair (a b : Register) : Except Fault Unit :=
  if pairCodes.contains (pairCode a b) = false then .error .registerCode
  else if (a.isFull && b.isFull)
      || (!(a.isFull || b.isFull) && (a.isHigh == b.isHigh || a.sameFamily b))
  then .ok ()
  else .error (.registerPair a b)

end Register

namespace Operand

/-- An operand that must be a register. -/
def requireRegister (o : Operand) : Except Fault Unit :=
  if o.isRegister then .ok () else .error .operandShape

/-- An operand that must have an encoding if it is a register. -/
def requireEncodable (o : Operand) : Except Fault Unit :=
  if o.isRegister then o.register.code.map fun _ => () else .ok ()

/-- An operand that must be an immediate of a given kind. -/
def requireKind (o : Operand) (kind : OperandKind) : Except Fault Unit :=
  if o.kind = kind then .ok () else .error .operandShape

end Operand

namespace Instruction

/-- The largest immediate of an opcode that takes five bits. -/
def maxShort : BitVec 16 := 0x1f

/-- The rules of each shape for its operands. -/
def checkShape (i : Instruction) : Shape → Except Fault Unit
  | .none => do
    i.b.requireRegister
    i.a.register.requireNone
    i.b.register.requireNone
    Register.requireNoWidths i.a.register i.b.register
  | .regReg => do
    i.b.requireRegister
    Register.requirePair i.a.register i.b.register
  | .reg => do
    i.b.requireRegister
    i.a.register.requireSome
    i.b.register.requireNone
  | .regImm5 => do
    i.a.register.requireSome
    i.b.requireKind .short
    if i.b.value ≤ maxShort then .ok () else .error .immediateTooLarge
  | .regImm16 => do
    i.a.register.requireSome
    i.b.requireKind .large

/-- All rules, the first broken one as the fault. -/
def check (i : Instruction) : Except Fault Unit := do
  if i.opcode.isDefined then .ok () else .error (.opcodeUnknown (Bytes.ofString i.opcode.name))
  i.a.requireRegister
  i.a.requireEncodable
  i.b.requireEncodable
  i.checkShape i.opcode.shape

/-- Accepts the instructions that the machine has; a fault names the instruction. -/
def validate (i : Instruction) : Except Fault Unit :=
  i.check.mapError (.illegal i)

end Instruction

end TwoPass
