import TwoPass.Machine.Register

/-!
# Operands

An operand is a register, an 8-bit short immediate or a 16-bit large immediate.  Its
kind is an open enumeration, and it always has room for both a register and a value;
which of the two counts is up to the kind.
-/

namespace TwoPass

/-- The kind of an operand, by number. -/
structure OperandKind where
  number : Int
  deriving DecidableEq, Repr, Inhabited

namespace OperandKind

/-- The kind of a register operand. -/
def register : OperandKind := ⟨0⟩

/-- The kind of an 8-bit immediate. -/
def short : OperandKind := ⟨1⟩

/-- The kind of a 16-bit immediate. -/
def large : OperandKind := ⟨2⟩

/-- How kinds are written. -/
def enumeration : Enumeration :=
  ⟨"OperandKind", ["register", "short immediate", "large immediate"]⟩

/-- The name of a kind. -/
def name (k : OperandKind) : String := enumeration.name k.number

end OperandKind

/-- An operand.  The register counts in a register operand, the value in any other. -/
structure Operand where
  kind : OperandKind
  register : Register
  value : BitVec 16
  deriving DecidableEq, Repr, Inhabited

namespace Operand

/-- A register as an operand. -/
def ofRegister (r : Register) : Operand := ⟨.register, r, 0⟩

/-- The missing operand. -/
def none : Operand := ofRegister .none

/-- An 8-bit immediate. -/
def short (value : BitVec 8) : Operand := ⟨.short, .none, value.setWidth 16⟩

/-- A 16-bit immediate. -/
def large (value : BitVec 16) : Operand := ⟨.large, .none, value⟩

/-- Whether the operand is a register. -/
def isRegister (o : Operand) : Bool := o.kind == .register

/-- The text of an operand: the name of a register, or a value in decimal. -/
def text (o : Operand) : String :=
  if o.isRegister then o.register.name else toString o.value.toNat

end Operand

end TwoPass
