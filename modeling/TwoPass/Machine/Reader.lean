import TwoPass.Fault
import TwoPass.Text.Blank
import TwoPass.Text.Numeral

/-!
# Reading instructions

An instruction is a mnemonic with at most two operands, separated by blanks or commas in
any number.  The first operand is a register; the second is an immediate if it starts
with a decimal digit, and a register otherwise.  What is read need not be legal.
-/

namespace TwoPass

/-- The value of a numeral that fits in a number of bits. -/
def readNumber (word : Bytes) (width : Int) : Except Fault Nat :=
  match Numeral.read word width with
  | .ok n => .ok n
  | .error .tooWide => .error .immediateRange
  | .error .malformed => .error (.notNumber word)

/-- The register that a word names. -/
def Register.read (word : Bytes) : Except Fault Register :=
  match ofWord? word with
  | some r => .ok r
  | Option.none => .error (.registerUnknown word)

/-- The opcode whose mnemonic a word spells. -/
def Opcode.read (word : Bytes) : Except Fault Opcode :=
  match ofWord? word with
  | some op => .ok op
  | none => .error (.opcodeUnknown word)

namespace Operand

/-- An immediate: 16 bits wide behind the one opcode that has room for it, 8 bits wide
    behind any other. -/
def readImmediate (opcode : Opcode) (word : Bytes) : Except Fault Operand := do
  let value ← readNumber word 16
  if opcode = .movi then .ok (large (BitVec.ofNat 16 value))
  else if value ≤ 0xff then .ok (short (BitVec.ofNat 8 value))
  else .error .immediateRange

/-- A second operand. -/
def readSecond (opcode : Opcode) (word : Bytes) : Except Fault Operand :=
  if word.head?.any Bytes.isDigit then readImmediate opcode word
  else (Register.read word).map ofRegister

end Operand

namespace Instruction

/-- What separates the words of an instruction: white space and commas. -/
def isSeparator (g : Glyph) : Bool := g.isBlank || g.code? == some ','.toNat

/-- The instruction that a list of words spells. -/
def ofWords : List Bytes → Except Fault Instruction
  | [] => .error .opcodeMissing
  | [op] => do
    let opcode ← Opcode.read op
    return derive opcode .none .none
  | [op, a] => do
    let opcode ← Opcode.read op
    let a ← Register.read a
    return derive opcode (.ofRegister a) .none
  | [op, a, b] => do
    let opcode ← Opcode.read op
    let a ← Register.read a
    let b ← Operand.readSecond opcode b
    return derive opcode (.ofRegister a) b
  | _ => .error .operandExtra

/-- The instruction that a line spells. -/
def read (line : Bytes) : Except Fault Instruction := ofWords (line.wordsBy isSeparator)

end Instruction

end TwoPass
