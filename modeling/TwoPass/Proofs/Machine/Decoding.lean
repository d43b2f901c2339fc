import TwoPass.Proofs.Machine.Rules
import TwoPass.Proofs.Machine.Stream

/-!
# Decoding — how much of an instruction its word gives back

Encoding fails for want of a code and for nothing else.  A word that comes out is the packed
fields of the instruction, so what is known of packed fields applies: a long word gives
everything back, and a regular one does so exactly if the second code has three bits.  Legal
instructions stay below six bits, so their header is always given back, and what was laid over
the first operand can be named.
-/

namespace TwoPass

/-- The operands with a code are those that an instruction word has one for. -/
theorem Operand.exists_code_iff {o : Operand} : (∃ c, o.code = .ok c) ↔ o.Coded := by
  rw [code, Coded, isRegister_iff]
  by_cases hregister : o.kind = .register
  · rw [if_pos hregister, ← Register.isSome_family?_iff, Option.isSome_iff_exists]
    constructor
    · rintro ⟨c, hc⟩ -
      obtain ⟨family, hfamily, -⟩ := Register.code_eq_ok.mp hc
      exact ⟨family, hfamily⟩
    · intro h
      obtain ⟨family, hfamily⟩ := h hregister
      exact ⟨_, Register.code_eq_ok.mpr ⟨family, hfamily, rfl⟩⟩
  · rw [if_neg hregister]
    refine ⟨fun _ h => absurd h hregister, fun _ => ?_⟩
    by_cases hshort : o.kind = .short
    · exact ⟨_, if_pos hshort⟩
    · exact ⟨_, if_neg hshort⟩

theorem Fields.long_pack (f : Fields) (long : Bool) : (f.pack long).long = long := by
  cases long with
  | true => rfl
  | false => rfl

/-- Six bits of the second operand: what is found in the place of the first, and in its own. -/
theorem Fields.operands_of_six {f : Fields} (h : f.b.toNat < 2 ^ 6) :
    (f.pack false).decode.a.setWidth 16 = f.a.setWidth 16 ||| (f.b >>> 3) ∧
      (f.pack false).decode.b = f.b % 8 := by
  obtain ⟨-, ha, hb⟩ := f.decode_pack_regular
  constructor
  · have hupper : (f.b.extractLsb' 3 3).setWidth 16 = f.b >>> 3 := by
      apply BitVec.eq_of_toNat_eq
      rw [BitVec.toNat_setWidth, BitVec.extractLsb'_toNat, BitVec.toNat_ushiftRight,
        Nat.shiftRight_eq_div_pow]
      omega
    rw [ha, BitVec.setWidth_or, hupper]
  · rw [hb]
    apply BitVec.eq_of_toNat_eq
    rw [BitVec.toNat_setWidth, BitVec.extractLsb'_toNat, BitVec.toNat_umod, Nat.shiftRight_zero]
    show f.b.toNat % 2 ^ 3 % 2 ^ 16 = f.b.toNat % 8
    omega

namespace Instruction

/-- There is a word exactly if both operands have a code. -/
theorem exists_encode_iff {i : Instruction} :
    (∃ w, i.encode = .ok w) ↔ i.a.Coded ∧ i.b.Coded := by
  rw [← Operand.exists_code_iff, ← Operand.exists_code_iff]
  constructor
  · rintro ⟨w, hw⟩
    obtain ⟨a, b, ha, hb, -⟩ := encode_eq_ok.mp hw
    exact ⟨⟨a, ha⟩, ⟨b, hb⟩⟩
  · rintro ⟨⟨a, ha⟩, ⟨b, hb⟩⟩
    exact ⟨_, encode_eq_ok.mpr ⟨a, b, ha, hb, rfl⟩⟩

/-- Encoding fails for want of a code, and for nothing else. -/
theorem encode_fails_iff {i : Instruction} :
    (∃ fault, i.encode = .error fault) ↔ ¬ i.a.Coded ∨ ¬ i.b.Coded := by
  rw [← not_and_or, ← exists_encode_iff]
  constructor
  · rintro ⟨fault, hfault⟩ ⟨w, hw⟩
    rw [hfault] at hw
    cases hw
  · intro h
    exact exists_error_of_ne_ok fun w hw => h ⟨w, hw⟩

/-- The codes of an accepted instruction: the first has three bits, and the second five unless the
    word is long. -/
theorem codes_of_validate {i : Instruction} {a b : BitVec 16} (h : i.validate = .ok ())
    (ha : i.a.code = .ok a) (hb : i.b.code = .ok b) :
    (a.setWidth 3).setWidth 16 = a ∧ (i.isLong = false → b.toNat < 2 ^ 5) := by
  obtain ⟨-, ⟨a', ha'⟩, hsecond⟩ := operands_of_validate h
  constructor
  · obtain rfl := Except.ok.inj (ha.symm.trans ha')
    rw [BitVec.setWidth_setWidth_of_le a' (by decide), BitVec.setWidth_eq]
  · intro hregular
    rcases hsecond with ⟨-, hlong, -⟩ | ⟨-, -, b', hb'⟩
    · rw [hlong] at hregular
      cases hregular
    · obtain rfl := Except.ok.inj (hb.symm.trans hb')
      have hlt := b'.isLt
      rw [BitVec.toNat_setWidth]
      omega

/-- The fields come back if and only if the second operand does not reach the first. -/
theorem decode_pack_fields_iff (i : Instruction) (a b : BitVec 16) :
    ((i.fields a b).pack i.isLong).decode = i.fields a b ↔ i.isLong = true ∨ b.toNat < 8 := by
  cases i.isLong with
  | true => exact ⟨fun _ => Or.inl rfl, fun _ => Fields.decode_pack_long _⟩
  | false =>
      rw [Fields.decode_pack_eq_iff]
      exact ⟨Or.inr, fun h => h.resolve_left Bool.false_ne_true⟩

/-- **WHAT DECODING GIVES BACK.**  Encoding fails exactly for a register without a code.  A word is
    long exactly for a large immediate; its fields are those of the instruction exactly if it is
    long or the second code is below eight; and packing its fields gives the same word.  The word
    of an accepted instruction shows the opcode and the bits, and if it is regular the second
    code is found in two parts, the upper one laid over the first code. -/
theorem decode_encode (i : Instruction) :
    ((∃ fault, i.encode = .error fault) ↔ ¬ i.a.Coded ∨ ¬ i.b.Coded) ∧
    (∀ w, i.encode = .ok w →
      (w.long = true ↔ i.b.kind = .large) ∧
      (∃ a b, i.a.code = .ok a ∧ i.b.code = .ok b ∧
        (w.decode = i.fields a b ↔ w.long = true ∨ b.toNat < 8)) ∧
      w.decode.pack w.long = w) ∧
    (i.validate = .ok () → ∃ w a b, i.encode = .ok w ∧ i.a.code = .ok a ∧ i.b.code = .ok b ∧
      w.Shows i ∧
      (w.long = false → w.decode.a.setWidth 16 = a ||| (b >>> 3) ∧ w.decode.b = b % 8)) := by
  refine ⟨encode_fails_iff, ?_, ?_⟩
  · intro w hw
    obtain ⟨a, b, ha, hb, rfl⟩ := encode_eq_ok.mp hw
    rw [Fields.long_pack]
    exact ⟨isLong_iff, ⟨a, b, ha, hb, decode_pack_fields_iff i a b⟩, Fields.pack_decode _ _⟩
  · intro hlegal
    obtain ⟨w, hw, hshows, -⟩ := Word.exists_of_validate hlegal
    obtain ⟨a, b, ha, hb, rfl⟩ := encode_eq_ok.mp hw
    refine ⟨_, a, b, hw, ha, hb, hshows, fun hlong => ?_⟩
    rw [Fields.long_pack] at hlong
    obtain ⟨hthree, hfive⟩ := codes_of_validate hlegal ha hb
    have hsix : b.toNat < 2 ^ 6 := Nat.lt_trans (hfive hlong) (by decide)
    have hoperands := Fields.operands_of_six (f := i.fields a b) hsix
    rw [hlong]
    rw [show (i.fields a b).a.setWidth 16 = a from hthree] at hoperands
    exact hoperands

/-- A port number that covers the register in front of it: `in ah, 24` gives back a first
    operand that is neither `ah` nor the port. -/
def coveredInstruction : Instruction := .derive ⟨17⟩ (.ofRegister ⟨2⟩) (.short 24)

theorem decode_encode_covered :
    coveredInstruction.validate = .ok () ∧
    (∃ w, coveredInstruction.encode = .ok w ∧
      (w.long = true ↔ coveredInstruction.b.kind = .large) ∧
      (∃ a b, coveredInstruction.a.code = .ok a ∧ coveredInstruction.b.code = .ok b ∧
        (w.decode = coveredInstruction.fields a b ↔ w.long = true ∨ b.toNat < 8)) ∧
      w.decode.pack w.long = w) ∧
    ∃ w a b, coveredInstruction.encode = .ok w ∧ coveredInstruction.a.code = .ok a ∧
      coveredInstruction.b.code = .ok b ∧ w.Shows coveredInstruction ∧
      (w.long = false → w.decode.a.setWidth 16 = a ||| (b >>> 3) ∧ w.decode.b = b % 8) := by
  have hlegal : coveredInstruction.validate = .ok () := by decide
  have hword : coveredInstruction.encode = .ok ⟨0x4618, false⟩ := by decide
  obtain ⟨-, hencoded, haccepted⟩ := decode_encode coveredInstruction
  exact ⟨hlegal, ⟨_, hword, hencoded _ hword⟩, haccepted hlegal⟩

end Instruction

end TwoPass
