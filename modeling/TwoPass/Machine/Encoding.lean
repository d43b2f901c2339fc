import TwoPass.Fault

/-!
# Instruction words — encoding and decoding

A word starts with ten bits: the opcode, the two width bits, the flag bit and the sign
bit.  A regular word is 16 bits long, with the first operand in bits 5 to 3 and the
second laid over its lowest bits; a long word is 32 bits long, with the first operand in
bits 18 to 16 and a 16-bit immediate below.

The second operand of a regular word is *laid over*, not fitted in: a short immediate
above 7 runs into the field of the first operand, and `decode` cannot tell the two apart.
-/

namespace TwoPass

/-- An encoded instruction; of a word that is not long, only the lower half counts. -/
structure Word where
  value : BitVec 32
  long : Bool
  deriving DecidableEq, Repr, Inhabited

namespace Word

/-- The number of bytes of a word. -/
def size (w : Word) : Nat := if w.long then 4 else 2

/-- The bytes of a word, most significant first. -/
def bytes (w : Word) : Bytes := Bytes.bigEndian w.size w.value.toNat

/-- The half of a word that holds the opcode. -/
def head (w : Word) : BitVec 16 := w.value.extractLsb' (if w.long then 16 else 0) 16

end Word

/-- The numeric contribution of a register to a word: its family code. -/
def Register.code (r : Register) : Except Fault (BitVec 16) :=
  match r.family? with
  | some family => .ok (family.setWidth 16)
  | Option.none => .error (.registerUse r .noEncoding)

/-- The numeric contribution of an operand to a word: the family code of a register, the
    lower byte of a short immediate, and the whole value of any other operand. -/
def Operand.code (o : Operand) : Except Fault (BitVec 16) :=
  if o.kind = .register then o.register.code
  else if o.kind = .short then .ok (o.value &&& 0xff)
  else .ok o.value

namespace Instruction

/-- The ten leading bits of a word, with six zeros behind them. -/
def header (i : Instruction) : BitVec 16 :=
  i.opcode.code ++ BitVec.ofBool i.high ++ BitVec.ofBool i.low ++ BitVec.ofBool i.setFlags
    ++ BitVec.ofBool i.signed ++ 0#6

/-- Whether the instruction is encoded in a long word. -/
def isLong (i : Instruction) : Bool := i.b.kind == .large

/-- The word of a header and two operand codes. -/
def pack (header a b : BitVec 16) (long : Bool) : Word :=
  if long then ⟨(header ||| (a &&& 0x7)) ++ b, true⟩
  else ⟨(header ||| ((a &&& 0x7) <<< 3) ||| b).setWidth 32, false⟩

/-- The word of an instruction; an operand without a code is a fault, the first
    operand's before the second's. -/
def encode (i : Instruction) : Except Fault Word := do
  let a ← i.a.code
  let b ← i.b.code
  return pack i.header a b i.isLong

end Instruction

/-- The bit fields of an instruction word. -/
structure Fields where
  code : BitVec 6
  high : Bool
  low : Bool
  setFlags : Bool
  signed : Bool
  a : BitVec 3
  b : BitVec 16
  deriving DecidableEq, Repr

namespace Word

/-- Splits a word into its bit fields. -/
def decode (w : Word) : Fields where
  code := w.head.extractLsb' 10 6
  high := w.head.getLsbD 9
  low := w.head.getLsbD 8
  setFlags := w.head.getLsbD 7
  signed := w.head.getLsbD 6
  a := w.head.extractLsb' (if w.long then 0 else 3) 3
  b := if w.long then w.value.setWidth 16 else (w.head.extractLsb' 0 3).setWidth 16

end Word

namespace Fields

/-- The opcode with the code of the fields, if it is defined. -/
def opcode? (f : Fields) : Option Opcode := Opcode.ofCode? f.code.toNat

/-- The fields as text: the mnemonic, a letter for each bit that is set, and the two
    operand fields. -/
def text (f : Fields) : String :=
  let name := (f.opcode?.map Opcode.name).getD "invalid"
  let flag (set : Bool) (letter : String) := if set then letter else "."
  let flags := flag f.high "h" ++ flag f.low "l" ++ flag f.setFlags "f" ++ flag f.signed "s"
  s!"{name} {flags} a:{f.a.toNat} b:{f.b.toNat}"

end Fields

end TwoPass
