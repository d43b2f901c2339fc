import TwoPass.Proofs.Machine.Legality

/-!
# Registers — what the table decides

A register is a number, and all that is known of it stands in a table.  Numbers outside the
table have no width and no code, so a register that has either can be looked up among the
entries (`coded_of_width`, `isSome_family?_iff`).  Two facts about the entries carry the rest:
the family code and the width bits together tell registers apart (`eq_of_bits`), and the
packed widths and the second check of a pair accept exactly the registers of one width and the
two halves of one register (`requirePair_eq_ok`).
-/

namespace TwoPass

namespace Register

/-- The program counter. -/
def pc : Register := ⟨17⟩

/-- The status flags. -/
def st : Register := ⟨18⟩

/-- A register with an entry in the table. -/
def InTable (r : Register) : Prop := 0 ≤ r.number ∧ r.number < table.length

instance (r : Register) : Decidable r.InTable := inferInstanceAs (Decidable (_ ∧ _))

/-- A register that an instruction word has a code for. -/
def Coded (r : Register) : Prop := r.InTable ∧ r ≠ pc ∧ r ≠ st

instance (r : Register) : Decidable r.Coded := inferInstanceAs (Decidable (_ ∧ _))

/-- A property of the registers in the table can be checked on the table. -/
theorem forall_inTable {P : Register → Prop} (h : ∀ n < table.length, P ⟨(n : Nat)⟩)
    (r : Register) (hr : r.InTable) : P r := by
  obtain ⟨number⟩ := r
  obtain ⟨hnonneg, hlt⟩ := hr
  obtain ⟨n, rfl⟩ := Int.eq_ofNat_of_zero_le hnonneg
  exact h n (Int.ofNat_lt.mp hlt)

/-- Nothing is known of a register outside the table. -/
theorem info?_of_not_inTable {r : Register} (h : ¬ r.InTable) : r.info? = Option.none := by
  rw [info?, Enumeration.lookup?]
  by_cases hnonneg : 0 ≤ r.number
  · rw [if_pos hnonneg, List.getElem?_eq_none_iff]
    have hge : ¬ r.number < table.length := fun hlt => h ⟨hnonneg, hlt⟩
    omega
  · rw [if_neg hnonneg]

/-- The registers with a family code are those of the table without `pc` and `st`. -/
theorem isSome_family?_iff {r : Register} : r.family?.isSome = true ↔ r.Coded := by
  by_cases h : r.InTable
  · revert h
    apply forall_inTable
    decide
  · rw [family?, info?_of_not_inTable h]
    exact ⟨nofun, fun hcoded => absurd hcoded.1 h⟩

/-- A register with a width is in the table, and has a code. -/
theorem coded_of_width {r : Register} (h : r.width ≠ .none) : r.Coded := by
  by_cases hr : r.InTable
  · revert h
    revert hr
    apply forall_inTable
    decide
  · rw [width, info?_of_not_inTable hr] at h
    exact absurd rfl h

/-- Of the registers with a code only `none` has no width. -/
theorem Coded.width_ne_none {r : Register} (h : r.Coded) (hne : r ≠ none) : r.width ≠ .none := by
  have htable : ∀ r : Register, r.InTable → r.Coded ∧ r ≠ none → r.width ≠ .none := by
    apply forall_inTable
    decide
  exact htable r h.1 ⟨h, hne⟩

/-- The registers with a code are those with a family. -/
theorem isEncodable_eq (r : Register) : r.isEncodable = r.family?.isSome := by
  rw [isEncodable, family?]
  cases r.info? with
  | none => rfl
  | some info => cases h : info.encodable <;> simp [h]

/-- Registers with a width are told apart by their family and their width bits. -/
theorem eq_of_bits {r s : Register} (hr : r.width ≠ .none) (hs : s.width ≠ .none)
    (hfamily : r.family? = s.family?) (hhigh : r.isHigh = s.isHigh) (hlow : r.isLow = s.isLow) :
    r = s := by
  have htable : ∀ r : Register, r.InTable → ∀ s : Register, s.InTable →
      r.width ≠ .none ∧ s.width ≠ .none ∧ r.family? = s.family? ∧ r.isHigh = s.isHigh ∧
        r.isLow = s.isLow → r = s := by
    apply forall_inTable
    intro n hn
    apply forall_inTable
    revert n
    decide
  exact htable r (coded_of_width hr).1 s (coded_of_width hs).1 ⟨hr, hs, hfamily, hhigh, hlow⟩

/-- A register is known from its two bits and its family. -/
theorem eq_iff_bits {r s : Register} (hr : r.width ≠ .none) (hs : s.width ≠ .none) :
    r = s ↔ (r.isHigh = s.isHigh ∧ r.isLow = s.isLow) ∧ r.family? = s.family? := by
  constructor
  · rintro rfl
    exact ⟨⟨rfl, rfl⟩, rfl⟩
  · rintro ⟨⟨hhigh, hlow⟩, hfamily⟩
    exact eq_of_bits hr hs hfamily hhigh hlow

/-- A register is known from its width and its family. -/
theorem eq_of_width {r s : Register} (hr : r.width ≠ .none) (hfamily : r.family? = s.family?)
    (hwidth : r.width = s.width) : r = s := by
  refine eq_of_bits hr (hwidth ▸ hr) hfamily ?_ ?_
  · rw [isHigh, isHigh, hwidth]
  · rw [isLow, isLow, hwidth]

/-! ## Pairs -/

/-- The two halves of one register, in either order. -/
def Halves (a b : Register) : Prop :=
  a.family? = b.family? ∧ (a.width = .high ∧ b.width = .low ∨ a.width = .low ∧ b.width = .high)

/-- Registers of one width, or the two halves of one register. -/
def Paired (a b : Register) : Prop :=
  (a.width = .full ∧ b.width = .full) ∨ (a.width = .high ∧ b.width = .high) ∨
    (a.width = .low ∧ b.width = .low) ∨ Halves a b

theorem Halves.symm {a b : Register} (h : Halves a b) : Halves b a :=
  ⟨h.1.symm, h.2.symm.imp And.symm And.symm⟩

instance (a b : Register) : Decidable (Halves a b) := inferInstanceAs (Decidable (_ ∧ _))

instance (a b : Register) : Decidable (Paired a b) := inferInstanceAs (Decidable (_ ∨ _))

/-- A partner has the same width, or is the other half. -/
theorem Paired.width_eq_or {r s : Register} (h : r.Paired s) :
    r.width ≠ .none ∧ (s.width = r.width ∨ Halves r s) := by
  rcases h with ⟨hr, hs⟩ | ⟨hr, hs⟩ | ⟨hr, hs⟩ | hhalves
  · exact ⟨by rw [hr]; decide, Or.inl (hs.trans hr.symm)⟩
  · exact ⟨by rw [hr]; decide, Or.inl (hs.trans hr.symm)⟩
  · exact ⟨by rw [hr]; decide, Or.inl (hs.trans hr.symm)⟩
  · refine ⟨?_, Or.inr hhalves⟩
    rcases hhalves.2 with ⟨hr, -⟩ | ⟨hr, -⟩
    · rw [hr]
      decide
    · rw [hr]
      decide

/-- Two halves that make up a register with one and the same half have one width. -/
theorem Halves.width_eq {r s t : Register} (hs : Halves r s) (ht : Halves r t) :
    s.width = t.width ∧ s.width ≠ .none := by
  rcases hs.2 with ⟨hr, hs⟩ | ⟨hr, hs⟩
  · rcases ht.2 with ⟨-, ht⟩ | ⟨hr', -⟩
    · rw [hs, ht]
      decide
    · rw [hr] at hr'
      cases hr'
  · rcases ht.2 with ⟨hr', -⟩ | ⟨-, ht⟩
    · rw [hr] at hr'
      cases hr'
    · rw [hs, ht]
      decide

/-- Partners of one register that share a family are equal, or one of them is that register and
    the other its other half. -/
theorem Paired.eq_or_halves {r s t : Register} (hs : r.Paired s) (ht : r.Paired t)
    (hfamily : s.family? = t.family?) : s = t ∨ (Halves s t ∧ (s = r ∨ t = r)) := by
  obtain ⟨hr, hs⟩ := hs.width_eq_or
  obtain ⟨-, ht⟩ := ht.width_eq_or
  rcases hs with hs | hs <;> rcases ht with ht | ht
  · exact Or.inl (eq_of_width (by rwa [hs]) hfamily (hs.trans ht.symm))
  · -- only the second is the other half, so the first is the register itself
    obtain rfl : s = r := eq_of_width (by rwa [hs]) (hfamily.trans ht.1.symm) hs
    exact Or.inr ⟨ht, Or.inl rfl⟩
  · obtain rfl : t = r := eq_of_width (by rwa [ht]) (hfamily.symm.trans hs.1.symm) ht
    exact Or.inr ⟨hs.symm, Or.inr rfl⟩
  · obtain ⟨hwidth, hne⟩ := hs.width_eq ht
    exact Or.inl (eq_of_width hne hfamily hwidth)

/-- Two registers share a family if both have a width and their families are equal. -/
theorem sameFamily_iff {a b : Register} :
    a.sameFamily b = true ↔ a.width ≠ .none ∧ b.width ≠ .none ∧ a.family? = b.family? := by
  simp only [sameFamily, Bool.and_eq_true, bne_iff_ne, beq_iff_eq, isEncodable_eq,
    isSome_family?_iff]
  constructor
  · rintro ⟨⟨⟨⟨-, -⟩, ha⟩, hb⟩, hfamily⟩
    exact ⟨ha, hb, hfamily⟩
  · rintro ⟨ha, hb, hfamily⟩
    exact ⟨⟨⟨⟨coded_of_width ha, coded_of_width hb⟩, ha⟩, hb⟩, hfamily⟩

/-- The packed widths are accepted if both registers are full or both are halves. -/
theorem contains_pairCode {a b : Register} :
    pairCodes.contains (pairCode a b) = true ↔
      (a.width = .full ∧ b.width = .full) ∨
        ((a.width = .high ∨ a.width = .low) ∧ (b.width = .high ∨ b.width = .low)) := by
  rw [pairCode, isLow, isLow, isHigh, isHigh]
  cases a.width <;> cases b.width <;> decide

/-- The two checks of a pair, as conditions. -/
theorem requirePair_eq_ok_iff {a b : Register} :
    a.requirePair b = .ok () ↔ pairCodes.contains (pairCode a b) = true ∧
      ((a.isFull && b.isFull)
        || (!(a.isFull || b.isFull) && (a.isHigh == b.isHigh || a.sameFamily b))) = true := by
  rw [requirePair]
  split
  · rename_i hcode
    rw [hcode]
    exact ⟨nofun, nofun⟩
  · rename_i hcode
    rw [Bool.not_eq_false] at hcode
    split
    · rename_i hpair
      exact ⟨fun _ => ⟨hcode, hpair⟩, fun _ => rfl⟩
    · rename_i hpair
      exact ⟨nofun, fun h => absurd h.2 hpair⟩

/-- **PAIRS.**  The checks of a pair accept registers of one width and the two halves of one
    register. -/
theorem requirePair_eq_ok {a b : Register} : a.requirePair b = .ok () ↔ a.Paired b := by
  rw [requirePair_eq_ok_iff, contains_pairCode, isFull, isFull, isHigh, isHigh]
  constructor
  · rintro ⟨⟨ha, hb⟩ | ⟨ha | ha, hb | hb⟩, hpair⟩
    · exact Or.inl ⟨ha, hb⟩
    · exact Or.inr (Or.inl ⟨ha, hb⟩)
    · -- opposite halves pass the second check by their family only
      have hfamily : a.sameFamily b = true := by simpa +decide [ha, hb] using hpair
      exact Or.inr (Or.inr (Or.inr ⟨(sameFamily_iff.mp hfamily).2.2, Or.inl ⟨ha, hb⟩⟩))
    · have hfamily : a.sameFamily b = true := by simpa +decide [ha, hb] using hpair
      exact Or.inr (Or.inr (Or.inr ⟨(sameFamily_iff.mp hfamily).2.2, Or.inr ⟨ha, hb⟩⟩))
    · exact Or.inr (Or.inr (Or.inl ⟨ha, hb⟩))
  · rintro (⟨ha, hb⟩ | ⟨ha, hb⟩ | ⟨ha, hb⟩ | ⟨hfamily, ⟨ha, hb⟩ | ⟨ha, hb⟩⟩)
    · simp +decide [ha, hb]
    · simp +decide [ha, hb]
    · simp +decide [ha, hb]
    · have hsame : a.sameFamily b = true := sameFamily_iff.mpr (by simp [ha, hb, hfamily])
      simp +decide [ha, hb, hsame]
    · have hsame : a.sameFamily b = true := sameFamily_iff.mpr (by simp [ha, hb, hfamily])
      simp +decide [ha, hb, hsame]

end Register

end TwoPass
