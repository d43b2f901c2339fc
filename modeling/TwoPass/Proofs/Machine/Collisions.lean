import TwoPass.Proofs.Machine.Decoding

/-!
# Collisions — which accepted instructions share a word

The bits of an instruction that was made from an opcode and two operands follow from the opcode
and the first register.  So two such words are equal exactly if the opcodes, the width bits of
the first registers and what lies behind the header are equal (`pack_eq_regular_iff`,
`pack_eq_long_iff`).  What that means for the operands depends on the shape: the word has no
room for the width of a second register, which costs the difference between a register and its
other half, and a short immediate may cover the register in front of it.
-/

namespace TwoPass

/-! ## Made instructions -/

/-- An operand that one of the constructors makes. -/
inductive Operand.Constructed : Operand → Prop
  | register (r : Register) : Constructed (ofRegister r)
  | short (v : BitVec 8) : Constructed (.short v)
  | large (v : BitVec 16) : Constructed (.large v)

namespace Operand

/-- A register operand that was constructed has nothing but its register. -/
theorem Constructed.eq_ofRegister {o : Operand} (h : o.Constructed) (hr : o.isRegister = true) :
    o = ofRegister o.register := by
  cases h with
  | register r => rfl
  | short v => cases hr
  | large v => cases hr

/-- A long immediate that was constructed has nothing but its value. -/
theorem Constructed.eq_large {o : Operand} (h : o.Constructed) (hk : o.kind = .large) :
    o = .large o.value := by
  cases h with
  | register r => cases hk
  | short v => cases hk
  | large v => rfl

/-- The code of a register operand is the family of the register. -/
theorem family?_of_code {o : Operand} {c : BitVec 16} (hr : o.isRegister = true)
    (hc : o.code = .ok c) : ∃ family : BitVec 3, o.register.family? = some family ∧
      c = family.setWidth 16 := by
  rw [code, if_pos (isRegister_iff.mp hr)] at hc
  exact Register.code_eq_ok.mp hc

/-- Register operands have one code exactly if they are of one family. -/
theorem code_eq_iff {o o' : Operand} {c c' : BitVec 16} (hr : o.isRegister = true)
    (hr' : o'.isRegister = true) (hc : o.code = .ok c) (hc' : o'.code = .ok c') :
    c = c' ↔ o.register.family? = o'.register.family? := by
  obtain ⟨family, hfamily, rfl⟩ := family?_of_code hr hc
  obtain ⟨family', hfamily', rfl⟩ := family?_of_code hr' hc'
  rw [hfamily, hfamily', setWidth_inj, Option.some.injEq]

end Operand

namespace Instruction

theorem isLong_of_isRegister {i : Instruction} (h : i.b.isRegister = true) : i.isLong = false := by
  rw [isLong, Operand.isRegister_iff.mp h]
  rfl

/-- An instruction made from an opcode and two constructed operands. -/
def Made (i : Instruction) : Prop :=
  ∃ op a b, a.Constructed ∧ b.Constructed ∧ make? op a b = some i

/-- The bits of an instruction that was made are those that its operands give. -/
theorem Made.eq_derive {i : Instruction} (h : i.Made) :
    i = derive i.opcode i.a i.b ∧ i.a.Constructed ∧ i.b.Constructed := by
  obtain ⟨op, a, b, ha, hb, h⟩ := h
  rw [make?] at h
  split at h
  · cases h
    exact ⟨rfl, ha, hb⟩
  · cases h

/-- The bits of a made instruction are those of its opcode and its first register. -/
theorem Made.bits {i : Instruction} (h : i.Made) :
    i.high = i.a.register.isHigh ∧ i.low = i.a.register.isLow ∧ i.signed = i.opcode.isSigned ∧
      i.setFlags = i.opcode.setsFlags := by
  rw [h.eq_derive.1]
  exact ⟨rfl, rfl, rfl, rfl⟩

/-- A made instruction is its opcode and its operands. -/
theorem Made.ext {i j : Instruction} (hi : i.Made) (hj : j.Made) (hop : i.opcode = j.opcode)
    (ha : i.a = j.a) (hb : i.b = j.b) : i = j := by
  rw [hi.eq_derive.1, hj.eq_derive.1, hop, ha, hb]

/-- A made instruction that is accepted, with the codes of its operands. -/
structure Coding (i : Instruction) (a b : BitVec 16) : Prop where
  made : i.Made
  accepted : i.validate = .ok ()
  first : i.a.code = .ok a
  second : i.b.code = .ok b

/-- A legal instruction has codes for its operands. -/
theorem exists_coding {i : Instruction} (hmade : i.Made) (h : i.validate = .ok ()) :
    ∃ a b, i.Coding a b := by
  obtain ⟨hcoded, hcoded'⟩ := (validate_eq_ok_iff.mp h).coded
  obtain ⟨a, ha⟩ := Operand.exists_code_iff.mpr hcoded
  obtain ⟨b, hb⟩ := Operand.exists_code_iff.mpr hcoded'
  exact ⟨a, b, hmade, h, ha, hb⟩

namespace Coding

variable {i j : Instruction} {a b a' b' : BitVec 16}

theorem legal (h : i.Coding a b) : i.Legal := validate_eq_ok_iff.mp h.accepted

theorem encode (h : i.Coding a b) : i.encode = .ok ((i.fields a b).pack i.isLong) :=
  encode_eq_ok.mpr ⟨a, b, h.first, h.second, rfl⟩

/-- First operands with the same register are the same. -/
theorem first_ext (hi : i.Coding a b) (hj : j.Coding a' b')
    (h : i.a.register = j.a.register) : i.a = j.a := by
  rw [hi.made.eq_derive.2.1.eq_ofRegister hi.legal.register,
    hj.made.eq_derive.2.1.eq_ofRegister hj.legal.register, h]

/-- So are second operands, where both are registers. -/
theorem second_ext (hi : i.Coding a b) (hj : j.Coding a' b') (hb : i.b.isRegister = true)
    (hb' : j.b.isRegister = true) (h : i.b.register = j.b.register) : i.b = j.b := by
  rw [hi.made.eq_derive.2.2.eq_ofRegister hb, hj.made.eq_derive.2.2.eq_ofRegister hb', h]

/-- Instructions of one opcode have the same leading bits if their first registers have the same
    width bits. -/
theorem leading_eq_iff (hi : i.Coding a b) (hj : j.Coding a' b') (hop : i.opcode = j.opcode) :
    (i.fields a b).leading = (j.fields a' b').leading ↔
      i.a.register.isHigh = j.a.register.isHigh ∧ i.a.register.isLow = j.a.register.isLow := by
  obtain ⟨hhigh, hlow, hsigned, hsetFlags⟩ := hi.made.bits
  obtain ⟨hhigh', hlow', hsigned', hsetFlags'⟩ := hj.made.bits
  rw [Fields.leading_inj]
  show i.opcode.code = j.opcode.code ∧ i.high = j.high ∧ i.low = j.low ∧ i.setFlags = j.setFlags ∧
    i.signed = j.signed ↔ _
  rw [hhigh, hhigh', hlow, hlow', hsetFlags, hsetFlags', hsigned, hsigned', hop]
  simp

/-- Regular words of one opcode. -/
theorem pack_eq_regular_iff (hi : i.Coding a b) (hj : j.Coding a' b') (hop : i.opcode = j.opcode)
    (hlong : i.isLong = false) (hlong' : j.isLong = false) :
    (i.fields a b).pack i.isLong = (j.fields a' b').pack j.isLong ↔
      (i.a.register.isHigh = j.a.register.isHigh ∧ i.a.register.isLow = j.a.register.isLow) ∧
        (a <<< 3) ||| b = (a' <<< 3) ||| b' := by
  obtain ⟨hthree, hfive⟩ := codes_of_validate hi.accepted hi.first hi.second
  obtain ⟨hthree', hfive'⟩ := codes_of_validate hj.accepted hj.first hj.second
  have hsix : (i.fields a b).b.toNat < 2 ^ 6 := Nat.lt_trans (hfive hlong) (by decide)
  have hsix' : (j.fields a' b').b.toNat < 2 ^ 6 := Nat.lt_trans (hfive' hlong') (by decide)
  rw [hlong, hlong', Fields.pack_regular_eq_iff hsix hsix', leading_eq_iff hi hj hop]
  show _ ∧ ((a.setWidth 3).setWidth 16 <<< 3) ||| b = ((a'.setWidth 3).setWidth 16 <<< 3) ||| b' ↔ _
  rw [hthree, hthree']

/-- Long words of one opcode. -/
theorem pack_eq_long_iff (hi : i.Coding a b) (hj : j.Coding a' b') (hop : i.opcode = j.opcode)
    (hlong : i.isLong = true) (hlong' : j.isLong = true) :
    (i.fields a b).pack i.isLong = (j.fields a' b').pack j.isLong ↔
      (i.a.register.isHigh = j.a.register.isHigh ∧ i.a.register.isLow = j.a.register.isLow) ∧
        a = a' ∧ b = b' := by
  obtain ⟨hthree, -⟩ := codes_of_validate hi.accepted hi.first hi.second
  obtain ⟨hthree', -⟩ := codes_of_validate hj.accepted hj.first hj.second
  rw [hlong, hlong', Fields.pack_long_inj, Fields.eq_iff, leading_eq_iff hi hj hop]
  have hcode : a.setWidth 3 = a'.setWidth 3 ↔ a = a' := by
    constructor
    · intro h
      rw [← hthree, h, hthree']
    · intro h
      rw [h]
  show _ ∧ a.setWidth 3 = a'.setWidth 3 ∧ b = b' ↔ _
  rw [hcode]

/-- The width bits and the code of a first operand tell registers apart. -/
theorem first_register_eq_iff (hi : i.Coding a b) (hj : j.Coding a' b')
    (hne : i.a.register ≠ .none) (hne' : j.a.register ≠ .none) :
    (i.a.register.isHigh = j.a.register.isHigh ∧ i.a.register.isLow = j.a.register.isLow) ∧ a = a' ↔
      i.a.register = j.a.register := by
  have hwidth := (hi.legal.coded.1 hi.legal.register).width_ne_none hne
  have hwidth' := (hj.legal.coded.1 hj.legal.register).width_ne_none hne'
  rw [Register.eq_iff_bits hwidth hwidth',
    Operand.code_eq_iff hi.legal.register hj.legal.register hi.first hj.first]

/-- Words of one opcode with registers in both places. -/
theorem pack_eq_registers_iff (hi : i.Coding a b) (hj : j.Coding a' b') (hop : i.opcode = j.opcode)
    (hb : i.b.isRegister = true) (hb' : j.b.isRegister = true) (hne : i.a.register ≠ .none)
    (hne' : j.a.register ≠ .none) :
    (i.fields a b).pack i.isLong = (j.fields a' b').pack j.isLong ↔
      i.a.register = j.a.register ∧ i.b.register.family? = j.b.register.family? := by
  have hcodes : (a <<< 3) ||| b = (a' <<< 3) ||| b' ↔ a = a' ∧ b = b' := by
    obtain ⟨fa, -, rfl⟩ := Operand.family?_of_code hi.legal.register hi.first
    obtain ⟨fb, -, rfl⟩ := Operand.family?_of_code hb hi.second
    obtain ⟨fa', -, rfl⟩ := Operand.family?_of_code hj.legal.register hj.first
    obtain ⟨fb', -, rfl⟩ := Operand.family?_of_code hb' hj.second
    rw [shift_or_inj, setWidth_inj, setWidth_inj]
  rw [pack_eq_regular_iff hi hj hop (isLong_of_isRegister hb) (isLong_of_isRegister hb'), hcodes,
    ← and_assoc, first_register_eq_iff hi hj hne hne', Operand.code_eq_iff hb hb' hi.second hj.second]

/-- A short immediate that is allowed is its own code. -/
theorem second_of_short (h : i.Coding a b) (hkind : i.b.kind = .short)
    (hvalue : i.b.value.toNat ≤ 31) : b = i.b.value := by
  have hcode := h.second
  rw [Operand.code, hkind] at hcode
  have hmask : i.b.value &&& 0xff = b := Except.ok.inj hcode
  rw [← hmask]
  apply BitVec.eq_of_toNat_eq
  rw [BitVec.toNat_and, show (0xff : BitVec 16).toNat = 2 ^ 8 - 1 from rfl,
    Nat.and_two_pow_sub_one_eq_mod]
  omega

/-- A long immediate is coded as its value. -/
theorem second_of_large (h : i.Coding a b) (hkind : i.b.kind = .large) : b = i.b.value := by
  have hcode := h.second
  rw [Operand.code, hkind] at hcode
  exact (Except.ok.inj hcode).symm

end Coding

/-- What instructions of one opcode have in common if they share a word, by the shape of the
    opcode. -/
def Alike (i j : Instruction) : Shape → Prop
  | .none => True
  | .reg => i.a = j.a ∧ i.b = j.b
  | .regImm16 => i.a = j.a ∧ i.b = j.b
  | .regReg => i.a.register = j.a.register ∧
      (i.b.register = j.b.register ∨
        (Register.Halves i.b.register j.b.register ∧
          (i.b.register = i.a.register ∨ j.b.register = i.a.register)))
  | .regImm5 =>
      (i.a.register.isHigh = j.a.register.isHigh ∧ i.a.register.isLow = j.a.register.isLow) ∧
        ∃ a a', i.a.code = .ok a ∧ j.a.code = .ok a' ∧
          (a <<< 3) ||| i.b.value = (a' <<< 3) ||| j.b.value

namespace Coding

variable {i j : Instruction} {a b a' b' : BitVec 16}

/-! ### Words of one opcode, shape by shape -/

/-- Without operands there is nothing to tell two instructions of one opcode apart. -/
theorem alike_none (hi : i.Coding a b) (hj : j.Coding a' b') (hop : i.opcode = j.opcode)
    (hs : i.Suits .none) (hs' : j.Suits .none) :
    (i.fields a b).pack i.isLong = (j.fields a' b').pack j.isLong ↔ i.Alike j .none := by
  obtain ⟨ha, hregister, hb⟩ := hs
  obtain ⟨ha', hregister', hb'⟩ := hs'
  have hsame : i = j := by
    refine hi.made.ext hj.made hop ?_ ?_
    · exact hi.first_ext hj (ha.trans ha'.symm)
    · exact hi.second_ext hj hregister hregister' (hb.trans hb'.symm)
  subst hsame
  obtain rfl : a = a' := Except.ok.inj (hi.first.symm.trans hj.first)
  obtain rfl : b = b' := Except.ok.inj (hi.second.symm.trans hj.second)
  exact ⟨fun _ => trivial, fun _ => rfl⟩

/-- A single register is found again in the word. -/
theorem alike_reg (hi : i.Coding a b) (hj : j.Coding a' b') (hop : i.opcode = j.opcode)
    (hs : i.Suits .reg) (hs' : j.Suits .reg) :
    (i.fields a b).pack i.isLong = (j.fields a' b').pack j.isLong ↔ i.Alike j .reg := by
  obtain ⟨hne, hregister, hb⟩ := hs
  obtain ⟨hne', hregister', hb'⟩ := hs'
  rw [pack_eq_registers_iff hi hj hop hregister hregister' hne hne', hb, hb']
  constructor
  · rintro ⟨ha, -⟩
    exact ⟨hi.first_ext hj ha, hi.second_ext hj hregister hregister' (hb.trans hb'.symm)⟩
  · rintro ⟨ha, -⟩
    exact ⟨congrArg Operand.register ha, rfl⟩

/-- The width of the second register is lost, which matters only for a half behind a half. -/
theorem alike_regReg (hi : i.Coding a b) (hj : j.Coding a' b') (hop : i.opcode = j.opcode)
    (hs : i.Suits .regReg) (hs' : j.Suits .regReg) :
    (i.fields a b).pack i.isLong = (j.fields a' b').pack j.isLong ↔ i.Alike j .regReg := by
  obtain ⟨hregister, hpair⟩ := hs
  obtain ⟨hregister', hpair'⟩ := hs'
  have hne : ∀ {r : Register}, r.width ≠ .none → r ≠ .none := by
    rintro r hwidth rfl
    exact hwidth rfl
  rw [pack_eq_registers_iff hi hj hop hregister hregister' (hne hpair.width_eq_or.1)
    (hne hpair'.width_eq_or.1)]
  refine and_congr_right fun ha => ?_
  rw [← ha] at hpair'
  constructor
  · intro hfamily
    exact hpair.eq_or_halves hpair' hfamily
  · rintro (hb | ⟨hhalves, -⟩)
    · rw [hb]
    · exact hhalves.1

/-- A short immediate is laid over the first register. -/
theorem alike_regImm5 (hi : i.Coding a b) (hj : j.Coding a' b') (hop : i.opcode = j.opcode)
    (hs : i.Suits .regImm5) (hs' : j.Suits .regImm5) :
    (i.fields a b).pack i.isLong = (j.fields a' b').pack j.isLong ↔ i.Alike j .regImm5 := by
  obtain ⟨-, hkind, hvalue⟩ := hs
  obtain ⟨-, hkind', hvalue'⟩ := hs'
  have hregular : ∀ {k : Instruction}, k.b.kind = .short → k.isLong = false := by
    intro k hk
    rw [isLong, hk]
    rfl
  rw [pack_eq_regular_iff hi hj hop (hregular hkind) (hregular hkind'),
    hi.second_of_short hkind hvalue, hj.second_of_short hkind' hvalue']
  refine and_congr_right fun _ => ?_
  constructor
  · intro h
    exact ⟨a, a', hi.first, hj.first, h⟩
  · rintro ⟨c, c', hc, hc', h⟩
    obtain rfl : a = c := Except.ok.inj (hi.first.symm.trans hc)
    obtain rfl : a' = c' := Except.ok.inj (hj.first.symm.trans hc')
    exact h

/-- So are a register and a long immediate. -/
theorem alike_regImm16 (hi : i.Coding a b) (hj : j.Coding a' b') (hop : i.opcode = j.opcode)
    (hs : i.Suits .regImm16) (hs' : j.Suits .regImm16) :
    (i.fields a b).pack i.isLong = (j.fields a' b').pack j.isLong ↔ i.Alike j .regImm16 := by
  obtain ⟨hne, hkind⟩ := hs
  obtain ⟨hne', hkind'⟩ := hs'
  rw [pack_eq_long_iff hi hj hop (isLong_iff.mpr hkind) (isLong_iff.mpr hkind'), ← and_assoc,
    first_register_eq_iff hi hj hne hne', hi.second_of_large hkind, hj.second_of_large hkind']
  constructor
  · rintro ⟨ha, hb⟩
    refine ⟨hi.first_ext hj ha, ?_⟩
    rw [hi.made.eq_derive.2.2.eq_large hkind, hj.made.eq_derive.2.2.eq_large hkind', hb]
  · rintro ⟨ha, hb⟩
    exact ⟨congrArg Operand.register ha, congrArg Operand.value hb⟩

/-- The words of two instructions of one opcode are equal exactly if the operands are alike. -/
theorem pack_eq_iff_alike (hi : i.Coding a b) (hj : j.Coding a' b') (hop : i.opcode = j.opcode) :
    (i.fields a b).pack i.isLong = (j.fields a' b').pack j.isLong ↔ i.Alike j i.opcode.shape := by
  have hs := hi.legal.suits
  have hs' := hj.legal.suits
  rw [← hop] at hs'
  cases hshape : i.opcode.shape with
  | none => exact alike_none hi hj hop (hshape ▸ hs) (hshape ▸ hs')
  | reg => exact alike_reg hi hj hop (hshape ▸ hs) (hshape ▸ hs')
  | regReg => exact alike_regReg hi hj hop (hshape ▸ hs) (hshape ▸ hs')
  | regImm5 => exact alike_regImm5 hi hj hop (hshape ▸ hs) (hshape ▸ hs')
  | regImm16 => exact alike_regImm16 hi hj hop (hshape ▸ hs) (hshape ▸ hs')

/-- Words of different opcodes are different. -/
theorem opcode_eq (hi : i.Coding a b) (hj : j.Coding a' b')
    (h : (i.fields a b).pack i.isLong = (j.fields a' b').pack j.isLong) : i.opcode = j.opcode := by
  obtain ⟨w, hw, hshows, -⟩ := Word.exists_of_validate hi.accepted
  obtain ⟨v, hv, hshows', -⟩ := Word.exists_of_validate hj.accepted
  obtain rfl : w = v := by
    rw [← Except.ok.inj (hi.encode.symm.trans hw), ← Except.ok.inj (hj.encode.symm.trans hv), h]
  exact congrArg Opcode.mk (hshows.code.symm.trans hshows'.code)

end Coding

/-- **INSTRUCTIONS THAT SHARE A WORD.**  Two accepted instructions have the same word if and only
    if they have the same opcode and are alike in the way of its shape. -/
theorem encode_collides {i j : Instruction} (hi : i.Made) (hj : j.Made)
    (hlegal : i.validate = .ok ()) (hlegal' : j.validate = .ok ()) :
    ∃ w v, i.encode = .ok w ∧ j.encode = .ok v ∧
      (w = v ↔ i.opcode = j.opcode ∧ i.Alike j i.opcode.shape) := by
  obtain ⟨a, b, hcoding⟩ := exists_coding hi hlegal
  obtain ⟨a', b', hcoding'⟩ := exists_coding hj hlegal'
  refine ⟨_, _, hcoding.encode, hcoding'.encode, ?_⟩
  constructor
  · intro h
    have hop := hcoding.opcode_eq hcoding' h
    exact ⟨hop, (hcoding.pack_eq_iff_alike hcoding' hop).mp h⟩
  · rintro ⟨hop, halike⟩
    exact (hcoding.pack_eq_iff_alike hcoding' hop).mpr halike

/-- The register that the port of `coveredInstruction` turns `ah` into, with a port that covers
    nothing: `in dh, 0`. -/
def coveringInstruction : Instruction := .derive ⟨17⟩ (.ofRegister ⟨11⟩) (.short 0)

theorem encode_collides_covered :
    (coveredInstruction.Made ∧ coveringInstruction.Made ∧ coveredInstruction.validate = .ok () ∧
      coveringInstruction.validate = .ok ()) ∧
    ∃ w v, coveredInstruction.encode = .ok w ∧ coveringInstruction.encode = .ok v ∧
      (w = v ↔ coveredInstruction.opcode = coveringInstruction.opcode ∧
        coveredInstruction.Alike coveringInstruction coveredInstruction.opcode.shape) := by
  have hmade : coveredInstruction.Made := ⟨_, _, _, .register _, .short _, rfl⟩
  have hmade' : coveringInstruction.Made := ⟨_, _, _, .register _, .short _, rfl⟩
  have hlegal : coveredInstruction.validate = .ok () := by decide
  have hlegal' : coveringInstruction.validate = .ok () := by decide
  exact ⟨⟨hmade, hmade', hlegal, hlegal'⟩, encode_collides hmade hmade' hlegal hlegal'⟩

/-- The two share a word, though neither operand is the same. -/
example : coveredInstruction.encode = coveringInstruction.encode := by decide

end Instruction

end TwoPass
