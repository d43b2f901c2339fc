import TwoPass.Machine.Legality
import TwoPass.Source.Directive
import TwoPass.Source.Reference
import TwoPass.Source.Statement

/-!
# Emission — the second pass, line by line

With a complete label table, a line becomes data bytes, a legal instruction, or nothing.
References are substituted in the whole statement before it is read, except in the text
of `.asciiz`, which is emitted as it stands.
-/

namespace TwoPass

/-- What a line emits. -/
inductive Emission where
  | data (bytes : Bytes)
  | code (instruction : Instruction)
  deriving DecidableEq, Repr

namespace Emission

/-- Whether the references of a statement are left as they are. -/
def isVerbatim (inCode : Bool) (text : Bytes) : Bool :=
  !inCode && Directive.Kind.asciiz.keyword.isPrefixOf text

/-- The statement with the addresses of its references filled in. -/
def fill (labels : LabelTable) (inCode : Bool) (text : Bytes) : Except Fault Bytes :=
  if isVerbatim inCode text then .ok text else Reference.substitute labels text

/-- A legal instruction. -/
def readCode (text : Bytes) : Except Fault Instruction := do
  let instruction ← Instruction.read text
  instruction.validate
  return instruction

/-- What the text of a statement emits. -/
def ofText (labels : LabelTable) (inCode : Bool) (text : Bytes) : Except Fault Emission := do
  let text ← fill labels inCode text
  if inCode then return code (← readCode text) else return data (← Directive.read text)

/-- What a line emits, if anything, and whether the next line is in the code section. -/
def ofLine (labels : LabelTable) (inCode : Bool) (line : Bytes) :
    Except Fault (Bool × Option Emission) := do
  match (← Statement.read line).body with
  | .nothing => return (inCode, none)
  | .marker s => return (← Section.enter inCode s, none)
  | .text text => return (inCode, some (← ofText labels inCode text))

/-- The bytes of address space that an emission takes up. -/
def size : Emission → Nat
  | data bytes => bytes.length
  | code instruction => if instruction.isLong then 4 else 2

end Emission

end TwoPass
