import TwoPass.Proofs.Program.Image

/-!
# Memory — which addresses a program takes up

The items of a section fill the addresses from its base on, one behind the other, without a gap
(`Chained.occupied`) and without an overlap (`Chained.pairwise_apart`).  How far they reach is
not limited: bases have 16 bits, but addresses count on beyond them, and the two sections are
never compared.  So a program stays within the 16-bit addresses exactly if both sections end
there, and its items keep apart exactly if the sections do.
-/

namespace TwoPass

namespace Item

/-- An address at which the item has a byte. -/
def Occupies (i : Item) (x : Int) : Prop :=
  ∃ bytes, i.bytes = .ok bytes ∧ i.address ≤ x ∧ x < i.address + bytes.length

/-- Items without a common address. -/
def Apart (i j : Item) : Prop := ∀ x, i.Occupies x → ¬ j.Occupies x

/-- An item that starts at or behind zero and ends at or before a limit. -/
def Within (limit : Int) (i : Item) : Prop :=
  ∃ bytes, i.bytes = .ok bytes ∧ 0 ≤ i.address ∧ i.address + bytes.length ≤ limit

end Item

namespace Chained

variable {a e : Int} {items : List Item}

/-- A chain does not lead backwards. -/
theorem le (h : Chained a items e) : a ≤ e := by
  obtain ⟨bytes, -, rfl⟩ := h.joined
  omega

/-- The items of a chain take up the addresses between its ends and no others. -/
theorem occupied (h : Chained a items e) (x : Int) :
    (∃ i ∈ items, i.Occupies x) ↔ a ≤ x ∧ x < e := by
  induction h with
  | nil a =>
      constructor
      · rintro ⟨i, hi, -⟩
        exact absurd hi List.not_mem_nil
      · rintro ⟨hle, hlt⟩
        omega
  | @cons a e item items bytes haddress hbytes hrest ih =>
      -- the first item takes up what is in front of the rest of the chain
      have hle := hrest.le
      rw [List.exists_mem_cons_iff, ih]
      constructor
      · rintro (⟨bytes', hbytes', hlo, hhi⟩ | ⟨hlo, hhi⟩)
        · cases hbytes.symm.trans hbytes'
          omega
        · omega
      · rintro ⟨hlo, hhi⟩
        by_cases hfirst : x < a + bytes.length
        · exact Or.inl ⟨bytes, hbytes, by omega, by omega⟩
        · exact Or.inr ⟨by omega, hhi⟩

/-- No two items of a chain have an address in common. -/
theorem pairwise_apart (h : Chained a items e) : items.Pairwise Item.Apart := by
  induction h with
  | nil => exact List.Pairwise.nil
  | @cons a e item items bytes haddress hbytes hrest ih =>
      refine List.Pairwise.cons ?_ ih
      rintro j hj x ⟨bytes', hbytes', -, hhi⟩ hoccupies
      cases hbytes.symm.trans hbytes'
      have hlo := ((hrest.occupied x).mp ⟨j, hj, hoccupies⟩).1
      omega

/-- The items of a chain stay within a limit exactly if its end does. -/
theorem within_iff {limit : Int} (h : Chained a items e) (ha : 0 ≤ a) (hlimit : a ≤ limit) :
    (∀ i ∈ items, i.Within limit) ↔ e ≤ limit := by
  induction h with
  | nil a => exact ⟨fun _ => hlimit, fun _ i hi => absurd hi List.not_mem_nil⟩
  | @cons a e item items bytes haddress hbytes hrest ih =>
      have hle := hrest.le
      rw [List.forall_mem_cons]
      constructor
      · rintro ⟨⟨bytes', hbytes', -, hhi⟩, hall⟩
        cases hbytes.symm.trans hbytes'
        exact (ih (by omega) (by omega)).mp hall
      · intro hend
        exact ⟨⟨bytes, hbytes, by omega, by omega⟩, (ih (by omega) (by omega)).mpr hend⟩

end Chained

/-- Two ranges of addresses have none in common exactly if one is empty or ends before the
    other starts. -/
theorem forall_not_between_iff {a b : Int} {m n : Nat} :
    (∀ x, (a ≤ x ∧ x < a + m) → ¬ (b ≤ x ∧ x < b + n)) ↔
      m = 0 ∨ n = 0 ∨ a + m ≤ b ∨ b + n ≤ a := by
  constructor
  · intro h
    have hmax := h (max a b)
    omega
  · intro h x hx hx'
    omega

/-- **THE MEMORY OF A PROGRAM.**  The data items of an assembled program take up exactly the
    addresses from the data base on, as many as there are data bytes, and the code items those
    from the code base on; two items of one section have no address in common.  All items lie
    within the 16-bit addresses exactly if both sections end there, and any two items are
    apart exactly if the sections are. -/
theorem memory_extent (c : Config) (texts : List Bytes) (p : Program)
    (h : assemble c texts = .ok p) :
    ∃ D C : Bytes,
      Item.joined p.dataItems.toList = .ok D ∧ Item.joined p.codeItems.toList = .ok C ∧
      (∀ x, (∃ i ∈ p.dataItems.toList, i.Occupies x) ↔
        c.dataBase.toNat ≤ x ∧ x < c.dataBase.toNat + D.length) ∧
      (∀ x, (∃ i ∈ p.codeItems.toList, i.Occupies x) ↔
        c.codeBase.toNat ≤ x ∧ x < c.codeBase.toNat + C.length) ∧
      p.dataItems.toList.Pairwise Item.Apart ∧ p.codeItems.toList.Pairwise Item.Apart ∧
      ((∀ i ∈ p.items, i.Within 65536) ↔
        c.dataBase.toNat + D.length ≤ 65536 ∧ c.codeBase.toNat + C.length ≤ 65536) ∧
      (p.items.Pairwise Item.Apart ↔
        D = [] ∨ C = [] ∨ c.dataBase.toNat + D.length ≤ c.codeBase.toNat ∨
          c.codeBase.toNat + C.length ≤ c.dataBase.toNat) := by
  obtain ⟨D, C, hp⟩ := placed_of_assemble h
  have hdata := c.dataBase.isLt
  have hcode := c.codeBase.isLt
  refine ⟨D, C, hp.dataBytes, hp.codeBytes, hp.data.occupied, hp.code.occupied,
    hp.data.pairwise_apart, hp.code.pairwise_apart, ?_, ?_⟩
  · rw [hp.items, List.forall_mem_append, hp.data.within_iff (by omega) (by omega),
      hp.code.within_iff (by omega) (by omega)]
    omega
  · -- only an item of data and one of code can have an address in common
    have hcross : (∀ i ∈ p.dataItems.toList, ∀ j ∈ p.codeItems.toList, i.Apart j) ↔
        ∀ x, (∃ i ∈ p.dataItems.toList, i.Occupies x) →
          ¬ ∃ j ∈ p.codeItems.toList, j.Occupies x := by
      constructor
      · rintro hapart x ⟨i, hi, hix⟩ ⟨j, hj, hjx⟩
        exact hapart i hi j hj x hix hjx
      · intro hnone i hi j hj x hix hjx
        exact hnone x ⟨i, hi, hix⟩ ⟨j, hj, hjx⟩
    rw [hp.items, List.pairwise_append, and_iff_right hp.data.pairwise_apart,
      and_iff_right hp.code.pairwise_apart, hcross]
    simp only [hp.data.occupied, hp.code.occupied]
    rw [forall_not_between_iff, List.length_eq_zero_iff, List.length_eq_zero_iff]
    norm_cast

/-- A program with room for both of its sections. -/
theorem memory_extent_hiddenSource :
    assemble .default hiddenSource = .ok hiddenProgram ∧
    (∀ i ∈ hiddenProgram.items, i.Within 65536) ∧ hiddenProgram.items.Pairwise Item.Apart := by
  obtain ⟨D, C, hD, hC, -, -, -, -, hwithin, hapart⟩ :=
    memory_extent .default hiddenSource hiddenProgram assemble_hiddenSource
  cases Except.ok.inj (show Except.ok [0, 3] = Except.ok D from hD)
  cases Except.ok.inj (show Except.ok [0x53, 0, 0, 5, 0, 0] = Except.ok C from hC)
  exact ⟨assemble_hiddenSource, hwithin.mpr (by decide), hapart.mpr (by decide)⟩

/-- Two sections that start at the last address. -/
def crowdedConfig : Config := ⟨0xffff, 0xffff, none⟩

/-- A source with two bytes for each of them. -/
def crowdedSource : List Bytes := [".word 1", ".code", "nop"].map Bytes.ofString

/-- A program may reach beyond the 16-bit addresses, and its sections may overlap. -/
theorem memory_crowded :
    ∃ p : Program, assemble crowdedConfig crowdedSource = .ok p ∧
      ¬ (∀ i ∈ p.items, i.Within 65536) ∧ ¬ p.items.Pairwise Item.Apart := by
  refine ⟨⟨[⟨1, Bytes.ofString ".word 1", 0xffff, some [0, 1], none⟩,
    ⟨3, Bytes.ofString "nop", 0xffff, none, some (.derive ⟨0⟩ .none .none)⟩], ⟨[]⟩⟩, rfl, ?_, ?_⟩
  · intro hall
    obtain ⟨bytes, hbytes, -, hend⟩ := hall _ List.mem_cons_self
    cases Except.ok.inj (show Except.ok [0, 1] = Except.ok bytes from hbytes)
    exact absurd hend (by decide)
  · intro hall
    have hfirst := (List.pairwise_cons.mp hall).1 _ List.mem_cons_self
    exact hfirst 0xffff ⟨[0, 1], rfl, by decide, by decide⟩ ⟨[0, 0], rfl, by decide, by decide⟩

end TwoPass
