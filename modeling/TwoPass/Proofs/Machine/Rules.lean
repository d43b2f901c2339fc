import TwoPass.Proofs.Failure
import TwoPass.Proofs.Machine.Registers

/-!
# Rules — the instructions that are legal

Checks are made in a fixed order and partly overlap: the codes of the registers are looked at
before the shape of the opcode, and a pair of registers is looked at twice.  `Legal` says what
they amount to without an order: a defined opcode, a register in the first place, registers
that have a code, and operands of the opcode's shape.  The bits of an instruction are not
looked at.
-/

namespace TwoPass

/-- The numbers of the defined opcodes. -/
theorem Opcode.isDefined_iff {op : Opcode} :
    op.isDefined = true ↔ 0 ≤ op.number ∧ op.number < 57 := by
  constructor
  · intro h
    obtain ⟨n, hn, rfl⟩ := exists_of_isDefined h
    exact ⟨Int.natCast_nonneg n, Int.ofNat_lt.mpr hn⟩
  · intro ⟨hnonneg, hlt⟩
    have htable : op.number.toNat < table.length := by
      show op.number.toNat < 57
      omega
    rw [isDefined, info?, Enumeration.lookup?, if_pos hnonneg, List.getElem?_eq_getElem htable]
    rfl

/-- An operand that a word has a code for: every immediate, and the registers with a code. -/
def Operand.Coded (o : Operand) : Prop := o.isRegister = true → o.register.Coded

instance (o : Operand) : Decidable o.Coded := inferInstanceAs (Decidable (_ → _))

/-- The check of a code, without the order of its parts. -/
theorem Operand.requireEncodable_iff {o : Operand} :
    o.requireEncodable = .ok () ↔ o.Coded := by
  rw [requireEncodable_eq_ok, Coded]
  refine forall_congr' fun _ => ?_
  rw [← Register.isSome_family?_iff, Option.isSome_iff_exists]

namespace Instruction

/-- What each shape asks of the operands. -/
def Suits (i : Instruction) : Shape → Prop
  | .none => i.a.register = .none ∧ i.b.isRegister = true ∧ i.b.register = .none
  | .reg => i.a.register ≠ .none ∧ i.b.isRegister = true ∧ i.b.register = .none
  | .regReg => i.b.isRegister = true ∧ i.a.register.Paired i.b.register
  | .regImm5 => i.a.register ≠ .none ∧ i.b.kind = .short ∧ i.b.value.toNat ≤ 31
  | .regImm16 => i.a.register ≠ .none ∧ i.b.kind = .large

/-- An instruction that the machine has. -/
structure Legal (i : Instruction) : Prop where
  defined : 0 ≤ i.opcode.number ∧ i.opcode.number < 57
  register : i.a.isRegister = true
  coded : i.a.Coded ∧ i.b.Coded
  suits : i.Suits i.opcode.shape

instance (i : Instruction) (shape : Shape) : Decidable (i.Suits shape) :=
  match shape with
  | .none => inferInstanceAs (Decidable (_ ∧ _ ∧ _))
  | .reg => inferInstanceAs (Decidable (_ ∧ _ ∧ _))
  | .regReg => inferInstanceAs (Decidable (_ ∧ _))
  | .regImm5 => inferInstanceAs (Decidable (_ ∧ _ ∧ _))
  | .regImm16 => inferInstanceAs (Decidable (_ ∧ _))

instance (i : Instruction) : Decidable i.Legal :=
  decidable_of_iff
    ((0 ≤ i.opcode.number ∧ i.opcode.number < 57) ∧ i.a.isRegister = true ∧
      (i.a.Coded ∧ i.b.Coded) ∧ i.Suits i.opcode.shape)
    ⟨fun ⟨h₁, h₂, h₃, h₄⟩ => ⟨h₁, h₂, h₃, h₄⟩, fun h => ⟨h.1, h.2, h.3, h.4⟩⟩

/-- The checks of a shape find nothing exactly if the operands suit it. -/
theorem checkShape_eq_ok {i : Instruction} (shape : Shape) :
    i.checkShape shape = .ok () ↔ i.Suits shape := by
  cases shape with
  | none =>
      rw [checkShape_none]
      exact and_left_comm
  | reg =>
      rw [checkShape_reg]
      exact and_left_comm
  | regReg => rw [checkShape_regReg, Register.requirePair_eq_ok, Suits]
  | regImm5 => exact checkShape_regImm5
  | regImm16 => exact checkShape_regImm16

/-- The instructions that are accepted are the legal ones. -/
theorem validate_eq_ok_iff {i : Instruction} : i.validate = .ok () ↔ i.Legal := by
  rw [validate_eq_ok, check_eq_ok, Opcode.isDefined_iff, Operand.requireEncodable_iff,
    Operand.requireEncodable_iff, checkShape_eq_ok]
  constructor
  · rintro ⟨hdefined, hregister, ha, hb, hsuits⟩
    exact ⟨hdefined, hregister, ⟨ha, hb⟩, hsuits⟩
  · rintro ⟨hdefined, hregister, ⟨ha, hb⟩, hsuits⟩
    exact ⟨hdefined, hregister, ha, hb, hsuits⟩

/-- A refusal names the instruction and the first check that failed. -/
theorem validate_eq_illegal {i : Instruction} {cause : Fault} :
    i.validate = .error (.illegal i cause) ↔ i.check = .error cause := by
  rw [validate, mapError_eq_error]
  constructor
  · rintro ⟨cause', hcheck, heq⟩
    rw [(Fault.illegal.inj heq).2]
    exact hcheck
  · intro hcheck
    exact ⟨cause, hcheck, rfl⟩

/-- Opposite halves go together only within one register. -/
example : (derive ⟨1⟩ (.ofRegister ⟨2⟩) (.ofRegister ⟨3⟩)).Legal ∧
    ¬ (derive ⟨1⟩ (.ofRegister ⟨2⟩) (.ofRegister ⟨6⟩)).Legal := by decide

/-- The same instruction with other bits. -/
def withBits (i : Instruction) (high low signed setFlags : Bool) : Instruction :=
  { i with high, low, signed, setFlags }

/-- No check looks at the bits of an instruction. -/
theorem check_withBits (i : Instruction) (high low signed setFlags : Bool) :
    (i.withBits high low signed setFlags).check = i.check := rfl

/-- **VALIDATION DECIDES LEGALITY.**  An instruction is accepted if and only if it is legal; what
    is refused is refused with a fault that names the instruction; and neither the verdict nor
    the cause depends on the bits. -/
theorem validate_decides (i : Instruction) :
    (i.validate = .ok () ↔ i.Legal) ∧
    (i.validate = .ok () ∨ ∃ cause, i.validate = .error (.illegal i cause)) ∧
    ∀ high low signed setFlags : Bool,
      let j := i.withBits high low signed setFlags
      (j.validate = .ok () ↔ i.validate = .ok ()) ∧
        ∀ cause, j.validate = .error (.illegal j cause) ↔ i.validate = .error (.illegal i cause) := by
  refine ⟨validate_eq_ok_iff, ?_, ?_⟩
  · cases h : i.validate with
    | ok => exact Or.inl rfl
    | error fault =>
        obtain ⟨cause, -, rfl⟩ := mapError_eq_error.mp h
        exact Or.inr ⟨cause, rfl⟩
  · intro high low signed setFlags j
    refine ⟨?_, fun cause => ?_⟩
    · rw [validate_eq_ok, validate_eq_ok, check_withBits]
    · rw [validate_eq_illegal, validate_eq_illegal, check_withBits]

end Instruction

end TwoPass
