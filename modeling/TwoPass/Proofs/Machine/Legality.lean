import TwoPass.Machine.Legality
import TwoPass.Proofs.Success

/-!
# Legality — what an accepted instruction looks like

The rules are checked one after the other.  Here each check is turned into the condition it
stands for, and the conditions are joined: an accepted instruction has a defined opcode and
operands with codes.  Its second operand is a large immediate behind `movi` and has a code of
at most five bits behind any other opcode (`operands_of_validate`).
-/

namespace TwoPass

namespace Opcode

/-- A defined opcode is one of the table. -/
theorem exists_of_isDefined {op : Opcode} (h : op.isDefined = true) :
    ∃ n : Nat, n < table.length ∧ op = ⟨n⟩ := by
  rw [isDefined, info?, Enumeration.lookup?] at h
  by_cases hn : 0 ≤ op.number
  · rw [if_pos hn] at h
    obtain ⟨info, hinfo⟩ := Option.isSome_iff_exists.mp h
    refine ⟨op.number.toNat, (List.getElem?_eq_some_iff.mp hinfo).1, ?_⟩
    cases op with
    | mk number => rw [Int.toNat_of_nonneg hn]
  · rw [if_neg hn] at h
    exact nomatch h

/-- A property of defined opcodes can be checked on the table. -/
theorem forall_isDefined {P : Opcode → Prop} (h : ∀ n < table.length, P ⟨(n : Nat)⟩)
    (op : Opcode) (hop : op.isDefined = true) : P op := by
  obtain ⟨n, hn, rfl⟩ := exists_of_isDefined hop
  exact h n hn

/-- Only `movi` takes a 16-bit immediate. -/
theorem shape_eq_regImm16_iff {op : Opcode} (h : op.isDefined = true) :
    op.shape = .regImm16 ↔ op = movi := by
  revert h
  apply forall_isDefined
  decide

/-- The one opcode with a long immediate, by its number. -/
theorem eq_movi_iff {op : Opcode} : op = movi ↔ op.number = movi.code.toNat := by
  cases op with
  | mk number => exact ⟨fun h => congrArg Opcode.number h, fun h => congrArg Opcode.mk h⟩

/-- The opcode field of a defined opcode holds its number. -/
theorem toNat_code {op : Opcode} (h : op.isDefined = true) : (op.code.toNat : Int) = op.number := by
  revert h
  apply forall_isDefined
  decide

end Opcode

namespace Register

/-- The code of a register is its family. -/
theorem code_eq_ok {r : Register} {c : BitVec 16} :
    r.code = .ok c ↔ ∃ family, r.family? = some family ∧ c = family.setWidth 16 := by
  rw [code]
  cases r.family? with
  | none => exact ⟨nofun, nofun⟩
  | some family =>
      constructor
      · intro h
        exact ⟨family, rfl, (Except.ok.inj h).symm⟩
      · rintro ⟨family', hf, rfl⟩
        cases hf
        rfl

theorem requireNone_eq_ok {r : Register} : r.requireNone = .ok () ↔ r = none := by
  rw [requireNone]
  by_cases h : r = none
  · rw [if_pos h]
    exact ⟨fun _ => h, fun _ => rfl⟩
  · rw [if_neg h]
    exact ⟨nofun, fun hr => absurd hr h⟩

theorem requireSome_eq_ok {r : Register} : r.requireSome = .ok () ↔ r ≠ none := by
  rw [requireSome]
  by_cases h : r = none
  · rw [if_pos h]
    exact ⟨nofun, fun hr => absurd h hr⟩
  · rw [if_neg h]
    exact ⟨fun _ => h, fun _ => rfl⟩

/-- A missing operand has no width. -/
theorem requireNoWidths_none : requireNoWidths .none .none = .ok () := rfl

end Register

namespace Operand

theorem isRegister_iff {o : Operand} : o.isRegister = true ↔ o.kind = .register := by
  rw [isRegister, beq_iff_eq]

theorem requireRegister_eq_ok {o : Operand} :
    o.requireRegister = .ok () ↔ o.isRegister = true := by
  rw [requireRegister]
  cases o.isRegister with
  | true => exact ⟨fun _ => rfl, fun _ => rfl⟩
  | false => exact ⟨nofun, nofun⟩

theorem requireKind_eq_ok {o : Operand} {k : OperandKind} :
    o.requireKind k = .ok () ↔ o.kind = k := by
  rw [requireKind]
  by_cases h : o.kind = k
  · rw [if_pos h]
    exact ⟨fun _ => h, fun _ => rfl⟩
  · rw [if_neg h]
    exact ⟨nofun, fun hk => absurd hk h⟩

/-- A register operand that passes has a family, which is its code. -/
theorem requireEncodable_eq_ok {o : Operand} :
    o.requireEncodable = .ok () ↔
      (o.isRegister = true → ∃ family, o.register.family? = some family) := by
  rw [requireEncodable]
  cases o.isRegister with
  | false => exact ⟨fun _ => nofun, fun _ => rfl⟩
  | true =>
      rw [if_pos rfl, map_eq_ok]
      constructor
      · rintro ⟨c, hc, -⟩ -
        obtain ⟨family, hf, -⟩ := Register.code_eq_ok.mp hc
        exact ⟨family, hf⟩
      · intro h
        obtain ⟨family, hf⟩ := h rfl
        exact ⟨_, Register.code_eq_ok.mpr ⟨family, hf, rfl⟩, rfl⟩

/-- The code of a register operand with a family. -/
theorem code_register {o : Operand} {family : BitVec 3} (h : o.isRegister = true)
    (hf : o.register.family? = some family) : o.code = .ok (family.setWidth 16) := by
  rw [code, if_pos (isRegister_iff.mp h), Register.code_eq_ok]
  exact ⟨family, hf, rfl⟩

end Operand

namespace Instruction

/-- An instruction that has passed all checks. -/
theorem check_eq_ok {i : Instruction} :
    i.check = .ok () ↔ i.opcode.isDefined = true ∧ i.a.isRegister = true ∧
      i.a.requireEncodable = .ok () ∧ i.b.requireEncodable = .ok () ∧
      i.checkShape i.opcode.shape = .ok () := by
  rw [check]
  cases i.opcode.isDefined with
  | false => exact ⟨nofun, nofun⟩
  | true =>
      show (i.a.requireRegister >>= fun _ => i.a.requireEncodable >>= fun _ =>
        i.b.requireEncodable >>= fun _ => i.checkShape i.opcode.shape) = .ok () ↔ _
      rw [check_bind_eq_ok, check_bind_eq_ok, check_bind_eq_ok, Operand.requireRegister_eq_ok]
      exact ⟨fun h => ⟨rfl, h⟩, fun h => h.2⟩

/-- Where both registers stand for a missing operand, the last check, of their widths, finds
    nothing more. -/
theorem checkShape_none {i : Instruction} :
    i.checkShape .none = .ok () ↔
      i.b.isRegister = true ∧ i.a.register = .none ∧ i.b.register = .none := by
  rw [checkShape, check_bind_eq_ok, check_bind_eq_ok, check_bind_eq_ok,
    Operand.requireRegister_eq_ok, Register.requireNone_eq_ok, Register.requireNone_eq_ok]
  refine and_congr_right fun _ => and_congr_right fun ha => and_iff_left_of_imp fun hb => ?_
  rw [ha, hb]
  exact Register.requireNoWidths_none

/-- One register, and nothing in the second place. -/
theorem checkShape_reg {i : Instruction} :
    i.checkShape .reg = .ok () ↔
      i.b.isRegister = true ∧ i.a.register ≠ .none ∧ i.b.register = .none := by
  rw [checkShape, check_bind_eq_ok, check_bind_eq_ok, Operand.requireRegister_eq_ok,
    Register.requireSome_eq_ok, Register.requireNone_eq_ok]

/-- Two registers that go together. -/
theorem checkShape_regReg {i : Instruction} :
    i.checkShape .regReg = .ok () ↔
      i.b.isRegister = true ∧ i.a.register.requirePair i.b.register = .ok () := by
  rw [checkShape, check_bind_eq_ok, Operand.requireRegister_eq_ok]

/-- A register and an immediate of five bits. -/
theorem checkShape_regImm5 {i : Instruction} :
    i.checkShape .regImm5 = .ok () ↔
      i.a.register ≠ .none ∧ i.b.kind = .short ∧ i.b.value ≤ maxShort := by
  rw [checkShape, check_bind_eq_ok, check_bind_eq_ok, Register.requireSome_eq_ok,
    Operand.requireKind_eq_ok]
  by_cases h : i.b.value ≤ maxShort
  · rw [if_pos h]
    exact ⟨fun ⟨h₁, h₂, _⟩ => ⟨h₁, h₂, h⟩, fun ⟨h₁, h₂, _⟩ => ⟨h₁, h₂, rfl⟩⟩
  · rw [if_neg h]
    exact ⟨fun ⟨_, _, h₃⟩ => (nomatch h₃), fun ⟨_, _, h₃⟩ => absurd h₃ h⟩

/-- A register and an immediate of any value. -/
theorem checkShape_regImm16 {i : Instruction} :
    i.checkShape .regImm16 = .ok () ↔ i.a.register ≠ .none ∧ i.b.kind = .large := by
  rw [checkShape, check_bind_eq_ok, Register.requireSome_eq_ok, Operand.requireKind_eq_ok]

/-- An instruction is accepted if no check finds anything. -/
theorem validate_eq_ok {i : Instruction} : i.validate = .ok () ↔ i.check = .ok () :=
  mapError_eq_ok

theorem isLong_iff {i : Instruction} : i.isLong = true ↔ i.b.kind = .large := by
  rw [isLong, beq_iff_eq]

/-- A register in the second place has a code of three bits, and so of five. -/
theorem code_b_of_register {i : Instruction} (hb : i.b.isRegister = true)
    (henc : i.b.requireEncodable = .ok ()) :
    i.isLong = false ∧ ∃ b : BitVec 5, i.b.code = .ok (b.setWidth 16) := by
  constructor
  · rw [isLong, Operand.isRegister_iff.mp hb]
    rfl
  · obtain ⟨family, hf⟩ := Operand.requireEncodable_eq_ok.mp henc hb
    refine ⟨family.setWidth 5, ?_⟩
    have hlt := family.isLt
    rw [Operand.code_register hb hf, Except.ok.injEq]
    apply BitVec.eq_of_toNat_eq
    rw [BitVec.toNat_setWidth, BitVec.toNat_setWidth, BitVec.toNat_setWidth]
    omega

/-- A short immediate that is allowed has a code of five bits. -/
theorem code_b_of_short {i : Instruction} (hb : i.b.kind = .short) (hv : i.b.value ≤ maxShort) :
    i.isLong = false ∧ ∃ b : BitVec 5, i.b.code = .ok (b.setWidth 16) := by
  constructor
  · rw [isLong, hb]
    rfl
  · refine ⟨i.b.value.setWidth 5, ?_⟩
    have hcode : i.b.code = .ok (i.b.value &&& 0xff) := by
      rw [Operand.code, hb]
      rfl
    have hle : i.b.value.toNat ≤ 31 := hv
    rw [hcode, Except.ok.injEq]
    apply BitVec.eq_of_toNat_eq
    rw [BitVec.toNat_and, BitVec.toNat_setWidth, BitVec.toNat_setWidth,
      show (0xff : BitVec 16).toNat = 2 ^ 8 - 1 from rfl, Nat.and_two_pow_sub_one_eq_mod]
    omega

/-- **OPERANDS OF AN ACCEPTED INSTRUCTION.**  Both have a code; the second is a large
    immediate if and only if the opcode is `movi`, and else its code has five bits. -/
theorem operands_of_validate {i : Instruction} (h : i.validate = .ok ()) :
    i.opcode.isDefined = true ∧ (∃ a : BitVec 3, i.a.code = .ok (a.setWidth 16)) ∧
      ((i.opcode = .movi ∧ i.isLong = true ∧ i.b.code = .ok i.b.value) ∨
        (i.opcode ≠ .movi ∧ i.isLong = false ∧
          ∃ b : BitVec 5, i.b.code = .ok (b.setWidth 16))) := by
  obtain ⟨hdef, ha, henca, hencb, hshape⟩ := check_eq_ok.mp (validate_eq_ok.mp h)
  obtain ⟨family, hf⟩ := Operand.requireEncodable_eq_ok.mp henca ha
  refine ⟨hdef, ⟨family, Operand.code_register ha hf⟩, ?_⟩
  -- one case for each shape: only that of `movi` wants a large immediate
  have hmovi := Opcode.shape_eq_regImm16_iff hdef
  cases hs : i.opcode.shape with
  | regImm16 =>
      rw [hs] at hshape
      obtain ⟨-, hkind⟩ := checkShape_regImm16.mp hshape
      refine Or.inl ⟨hmovi.mp hs, isLong_iff.mpr hkind, ?_⟩
      rw [Operand.code, hkind]
      rfl
  | none =>
      rw [hs] at hshape hmovi
      refine Or.inr ⟨fun he => (nomatch hmovi.mpr he), ?_⟩
      exact code_b_of_register (checkShape_none.mp hshape).1 hencb
  | reg =>
      rw [hs] at hshape hmovi
      refine Or.inr ⟨fun he => (nomatch hmovi.mpr he), ?_⟩
      exact code_b_of_register (checkShape_reg.mp hshape).1 hencb
  | regReg =>
      rw [hs] at hshape hmovi
      refine Or.inr ⟨fun he => (nomatch hmovi.mpr he), ?_⟩
      exact code_b_of_register (checkShape_regReg.mp hshape).1 hencb
  | regImm5 =>
      rw [hs] at hshape hmovi
      obtain ⟨-, hkind, hvalue⟩ := checkShape_regImm5.mp hshape
      exact Or.inr ⟨fun he => (nomatch hmovi.mpr he), code_b_of_short hkind hvalue⟩

end Instruction

end TwoPass
