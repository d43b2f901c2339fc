import TwoPass.Machine.Instruction

/-!
# Faults — why text is refused

A fault is a cause.  Two constructors wrap another fault: one names the instruction
that broke a rule, one the source line at which assembly stopped.  Three causes belong
to a broader one (a register used wrongly to an invalid register operand, a mismatched
pair to an invalid register code, a bad setting to an invalid configuration), so each
fault has a chain of kinds from the outside in.

How a fault is worded depends on a language and is not decided here.
-/

namespace TwoPass

/-- What is wrong with a register in its place. -/
inductive Misuse where
  | noEncoding
  | mustBeNone
  | mustNotBeNone
  deriving DecidableEq, Repr

/-- Why a number, an instruction, a directive, a label, a line or a setting is refused. -/
inductive Fault where
  | immediateRange
  | immediateTooLarge
  | operandShape
  | operandExtra
  | opcodeMissing
  | registerCode
  | registerOperand
  | directiveSyntax
  | sectionOrder
  | configInvalid
  | opcodeUnknown (word : Bytes)
  | registerUnknown (word : Bytes)
  | notNumber (word : Bytes)
  | registerUse (register : Register) (misuse : Misuse)
  | registerPair (a b : Register)
  | directiveUnknown (word : Bytes)
  | labelInvalid (name : Bytes)
  | labelUnknown (name : Bytes)
  | configValue (name : Bytes)
  | illegal (instruction : Instruction) (cause : Fault)
  | atLine (number : Int) (line : Bytes) (cause : Fault)
  deriving DecidableEq, Repr

/-- The kinds of fault. -/
inductive FaultKind where
  | immediateRange
  | immediateTooLarge
  | operandShape
  | operandExtra
  | opcodeMissing
  | registerCode
  | registerOperand
  | directiveSyntax
  | sectionOrder
  | configInvalid
  | opcodeUnknown
  | registerUnknown
  | notNumber
  | registerUse
  | registerPair
  | directiveUnknown
  | labelInvalid
  | labelUnknown
  | configValue
  | illegal
  | atLine
  deriving DecidableEq, Repr

namespace Fault

/-- The kinds of a fault, from the outermost to the innermost. -/
def chain : Fault → List FaultKind
  | immediateRange => [.immediateRange]
  | immediateTooLarge => [.immediateTooLarge]
  | operandShape => [.operandShape]
  | operandExtra => [.operandExtra]
  | opcodeMissing => [.opcodeMissing]
  | registerCode => [.registerCode]
  | registerOperand => [.registerOperand]
  | directiveSyntax => [.directiveSyntax]
  | sectionOrder => [.sectionOrder]
  | configInvalid => [.configInvalid]
  | opcodeUnknown _ => [.opcodeUnknown]
  | registerUnknown _ => [.registerUnknown]
  | notNumber _ => [.notNumber]
  | registerUse _ _ => [.registerUse, .registerOperand]
  | registerPair _ _ => [.registerPair, .registerCode]
  | directiveUnknown _ => [.directiveUnknown]
  | labelInvalid _ => [.labelInvalid]
  | labelUnknown _ => [.labelUnknown]
  | configValue _ => [.configValue, .configInvalid]
  | illegal _ cause => .illegal :: cause.chain
  | atLine _ _ cause => .atLine :: cause.chain

/-- The line at which a fault is located, if it is. -/
def location? : Fault → Option (Int × Bytes)
  | atLine number line _ => some (number, line)
  | illegal _ cause => cause.location?
  | _ => none

/-- The instruction that a fault blames, if it blames one. -/
def blamed? : Fault → Option Instruction
  | illegal instruction _ => some instruction
  | atLine _ _ cause => cause.blamed?
  | _ => none

end Fault

namespace FaultKind

/-- The kinds that a caller can ask for; the rest are more specific than one of these,
    or say where the fault is. -/
def basic : List FaultKind :=
  [ immediateRange, immediateTooLarge, operandShape, operandExtra, opcodeMissing, registerCode,
    registerOperand, directiveSyntax, sectionOrder, configInvalid, opcodeUnknown, registerUnknown,
    directiveUnknown, labelInvalid, labelUnknown ]

end FaultKind

/-- The basic kinds that a fault is of. -/
def Fault.kinds (f : Fault) : List FaultKind := FaultKind.basic.filter fun k => k ∈ f.chain

end TwoPass
