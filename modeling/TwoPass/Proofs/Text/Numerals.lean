import TwoPass.Machine.Reader
import TwoPass.Proofs.Failure
import TwoPass.Proofs.Text.Glyphs
import TwoPass.Proofs.Text.Numbers

/-!
# Numerals — a number is read from what denotes it

A numeral is the mark of a base with at least one digit of that base behind it; `Denotes` says which
number it stands for.  The value read so far only grows, and the reading stops when it leaves the
wanted width; so what is read is the number that is denoted if it fits, and a number that does not
fit is refused and never cut down (`read_of_denotes`).  Conversely only numerals are read
(`denotes_of_read`), and a word is too wide exactly if it starts with a numeral for too much
(`read_eq_tooWide_iff`).  Such a numeral is in the base of the word (`MarkedAs.exceeds_iff`), so it is
enough to look at the digits behind the mark.

Every number can be written in each base (`denotes_write`); what is written in decimal, as addresses
are, is therefore read back (`readNumber_decimal`).
-/

namespace TwoPass

open Bytes

namespace Bytes

/-- Digits in a base behind a value already read. -/
def joinDigits (base : Nat) (n : Nat) (ds : List Nat) : Nat := ds.foldl (fun n d => n * base + d) n

/-- The digits of a number have its value. -/
theorem joinDigits_digits (base n : Nat) : joinDigits base 0 (digits base n) = n := by
  induction n using Nat.strongRecOn with
  | _ n ih =>
      rw [digits]
      split
      · rw [joinDigits, List.foldl_cons, List.foldl_nil, Nat.zero_mul, Nat.zero_add]
      · rename_i hge
        have hfront := ih (n / base) (Nat.div_lt_self (by omega) (by omega))
        rw [joinDigits] at hfront
        rw [joinDigits, List.foldl_append, hfront, List.foldl_cons, List.foldl_nil,
          Nat.div_add_mod']

/-- A value does not shrink as digits are read. -/
theorem le_joinDigits {base : Nat} (hbase : 1 ≤ base) (n : Nat) (ds : List Nat) :
    n ≤ joinDigits base n ds := by
  induction ds generalizing n with
  | nil => exact Nat.le_refl n
  | cons d ds ih =>
      have hstep : n ≤ n * base + d :=
        Nat.le_trans (Nat.le_mul_of_pos_right n hbase) (Nat.le_add_right _ _)
      exact Nat.le_trans hstep (ih (n * base + d))

end Bytes

namespace Numeral

/-! ## What numerals denote -/

/-- The bases that numbers are written in. -/
inductive Base where
  | decimal
  | hexadecimal
  | binary
  deriving DecidableEq, Repr

namespace Base

/-- The number of digits that a base has. -/
def radix : Base → Nat
  | decimal => 10
  | hexadecimal => 16
  | binary => 2

/-- What a number in a base starts with. -/
def mark : Base → Bytes
  | decimal => []
  | hexadecimal => Bytes.ofString "0x"
  | binary => Bytes.ofString "0b"

/-- A number in a base, in lower case and without leading zeros. -/
def write (base : Base) (n : Nat) : Bytes := base.mark ++ (digits base.radix n).map digitByte

theorem two_le_radix (base : Base) : 2 ≤ base.radix := by cases base <;> decide

theorem radix_le (base : Base) : base.radix ≤ 16 := by cases base <;> decide

end Base

/-- A byte that writes a digit: `0`–`9`, and then the letters from `a` on in either case. -/
def Writes (b : UInt8) (d : Nat) : Prop :=
  b = digitByte d ∨ 10 ≤ d ∧ b = 'A'.toUInt8 + (d - 10).toUInt8

instance (b : UInt8) (d : Nat) : Decidable (Writes b d) := inferInstanceAs (Decidable (_ ∨ _))

/-- A text of digits in a base. -/
def Spells (base : Base) : Bytes → List Nat → Prop :=
  List.Forall₂ fun b d => Writes b d ∧ d < base.radix

instance (base : Base) (text : Bytes) (ds : List Nat) : Decidable (Spells base text ds) :=
  inferInstanceAs (Decidable (List.Forall₂ _ text ds))

/-- A numeral and the number it stands for. -/
def Denotes (word : Bytes) (n : Nat) : Prop :=
  ∃ (base : Base) (text : Bytes) (ds : List Nat),
    word = base.mark ++ text ∧ text ≠ [] ∧ Spells base text ds ∧ n = joinDigits base.radix 0 ds

/-- A word that starts with a numeral for a number of at least the limit. -/
def Overflows (word : Bytes) (limit : Nat) : Prop :=
  ∃ front rest n, word = front ++ rest ∧ Denotes front n ∧ limit ≤ n

/-- The bytes that write a digit are those that have its value. -/
theorem digitValue?_eq_some_iff {b : UInt8} {d : Nat} (hd : d < 16) :
    digitValue? b = some d ↔ Writes b d := by
  constructor
  · intro h
    have hall : ∀ b : UInt8, (digitValue? b).all (fun d => decide (16 ≤ d ∨ Writes b d)) = true :=
      forall_byte (by decide +kernel)
    have hb := hall b
    rw [h] at hb
    exact (of_decide_eq_true hb).resolve_left (Nat.not_le.mpr hd)
  · rintro (rfl | ⟨hle, rfl⟩)
    · revert d
      decide
    · revert d
      decide

/-- Only identifier bytes are digits in any base. -/
theorem isWord_of_digitValue? {b : UInt8} {d : Nat} (h : digitValue? b = some d) :
    isWord b = true := by
  rw [digitValue?] at h
  rw [isWord, isLetter]
  split at h
  · rename_i hdigit
    rw [hdigit, Bool.or_true, Bool.true_or]
  · split at h
    · rename_i hlower
      rw [hlower, Bool.true_or, Bool.true_or, Bool.true_or]
    · split at h
      · rename_i hupper
        rw [hupper, Bool.or_true, Bool.true_or, Bool.true_or]
      · exact nomatch h

/-- Every number is written in each base. -/
theorem denotes_write (base : Base) (n : Nat) : Denotes (base.write n) n := by
  refine ⟨base, _, digits base.radix n, rfl, ?_, ?_, (joinDigits_digits base.radix n).symm⟩
  · exact fun h => digits_ne_nil base.radix n (List.map_eq_nil_iff.mp h)
  · rw [Spells, List.forall₂_map_left_iff, List.forall₂_same]
    intro d hd
    exact ⟨Or.inl rfl, digits_lt base.radix n base.two_le_radix d hd⟩

/-- A numeral starts with a decimal digit, in whatever base it is written. -/
theorem Denotes.head_isDigit {word : Bytes} {n : Nat} (h : Denotes word n) :
    word.head?.any isDigit = true := by
  obtain ⟨base, text, ds, rfl, hne, hspells, -⟩ := h
  cases base with
  | hexadecimal => rfl
  | binary => rfl
  | decimal =>
      cases hspells with
      | nil => exact absurd rfl hne
      | @cons b d _ _ hdigit _ =>
          obtain ⟨rfl | ⟨hle, -⟩, hd⟩ := hdigit
          · exact isDigit_digitByte hd
          · exact absurd hle (Nat.not_le.mpr hd)

/-- A numeral consists of identifier bytes, and of at least one. -/
theorem Denotes.isWord {word : Bytes} {n : Nat} (h : Denotes word n) :
    word ≠ [] ∧ ∀ b ∈ word, isWord b = true := by
  obtain ⟨base, text, ds, rfl, hne, hspells, -⟩ := h
  refine ⟨List.append_ne_nil_of_right_ne_nil _ hne, fun b hb => ?_⟩
  rcases List.mem_append.mp hb with hb | hb
  · have hmark : base.mark.all Bytes.isWord = true := by cases base <;> decide
    exact List.all_eq_true.mp hmark b hb
  · obtain ⟨d, -, hwrites, hlt⟩ := exists_of_mem_forall₂ hspells hb
    have hd := Nat.lt_of_lt_of_le hlt base.radix_le
    exact isWord_of_digitValue? ((digitValue?_eq_some_iff hd).mpr hwrites)

/-! ## Reading -/

/-- Digits in front of other text are read to the value they stand for, or until it is too wide. -/
theorem readDigits_append {base : Base} {text : Bytes} {ds : List Nat} (h : Spells base text ds)
    (rest : Bytes) {limit n : Nat} (hn : n < limit) :
    readDigits base.radix limit n (text ++ rest) =
      if joinDigits base.radix n ds < limit then
        readDigits base.radix limit (joinDigits base.radix n ds) rest
      else .error .tooWide := by
  induction h generalizing n with
  | nil => exact (if_pos hn).symm
  | @cons b d text ds hdigit _ ih =>
      obtain ⟨hwrites, hd⟩ := hdigit
      have hvalue := (digitValue?_eq_some_iff (Nat.lt_of_lt_of_le hd base.radix_le)).mpr hwrites
      rw [List.cons_append, readDigits, hvalue]
      simp only [Nat.not_le.mpr hd, if_false]
      by_cases hwide : limit ≤ n * base.radix + d
      · -- what follows makes the value no smaller
        have hall : n * base.radix + d ≤ joinDigits base.radix (n * base.radix + d) ds :=
          le_joinDigits (Nat.le_of_succ_le base.two_le_radix) _ ds
        rw [if_pos hwide, if_neg]
        exact Nat.not_lt.mpr (Nat.le_trans hwide hall)
      · rw [if_neg hwide, ih (Nat.lt_of_not_le hwide)]
        rfl

/-- Digits are read to the value they stand for, or until it is too wide. -/
theorem readDigits_of_spells {base : Base} {text : Bytes} {ds : List Nat} (h : Spells base text ds)
    {limit n : Nat} (hn : n < limit) :
    readDigits base.radix limit n text =
      if joinDigits base.radix n ds < limit then .ok (joinDigits base.radix n ds)
      else .error .tooWide := by
  have hread := readDigits_append h [] hn
  rwa [List.append_nil] at hread

/-- Only digits of the base are read. -/
theorem exists_spells_of_readDigits {base : Base} {limit n m : Nat} {text : Bytes}
    (h : readDigits base.radix limit n text = .ok m) :
    ∃ ds, Spells base text ds ∧ m = joinDigits base.radix n ds := by
  induction text generalizing n with
  | nil => exact ⟨[], List.Forall₂.nil, (Except.ok.inj h).symm⟩
  | cons b text ih =>
      rw [readDigits] at h
      split at h
      · cases h
      · rename_i d hvalue
        split at h
        · cases h
        · rename_i hd
          have hd : d < base.radix := Nat.lt_of_not_le hd
          split at h
          · cases h
          · obtain ⟨ds, hds, rfl⟩ := ih h
            have hlt : d < 16 := Nat.lt_of_lt_of_le hd base.radix_le
            refine ⟨d :: ds, List.Forall₂.cons ⟨?_, hd⟩ hds, rfl⟩
            exact (digitValue?_eq_some_iff hlt).mp hvalue

/-- Reading stops as too wide only behind digits that stand for too much. -/
theorem exists_spells_of_tooWide {base : Base} {limit n : Nat} {text : Bytes}
    (h : readDigits base.radix limit n text = .error .tooWide) :
    ∃ front rest ds, text = front ++ rest ∧ front ≠ [] ∧ Spells base front ds ∧
      limit ≤ joinDigits base.radix n ds := by
  induction text generalizing n with
  | nil => cases h
  | cons b text ih =>
      rw [readDigits] at h
      split at h
      · cases h
      · rename_i d hvalue
        split at h
        · cases h
        · rename_i hd
          have hd : d < base.radix := Nat.lt_of_not_le hd
          have hwrites := (digitValue?_eq_some_iff (Nat.lt_of_lt_of_le hd base.radix_le)).mp hvalue
          split at h
          · -- it is this digit that makes the number too wide
            rename_i hwide
            exact ⟨[b], text, [d], rfl, List.cons_ne_nil b [],
              List.Forall₂.cons ⟨hwrites, hd⟩ List.Forall₂.nil, hwide⟩
          · obtain ⟨front, rest, ds, rfl, -, hds, hwide⟩ := ih h
            exact ⟨b :: front, rest, d :: ds, rfl, List.cons_ne_nil b front,
              List.Forall₂.cons ⟨hwrites, hd⟩ hds, hwide⟩

/-- A word is cut behind the mark of its base. -/
theorem exists_base_of_splitBase {word text : Bytes} {radix : Nat}
    (h : splitBase word = (radix, text)) :
    ∃ base : Base, radix = base.radix ∧ word = base.mark ++ text := by
  rw [splitBase.eq_def] at h
  split at h
  · rename_i a b rest
    split at h
    · rename_i hmark
      rw [Bool.and_eq_true, beq_iff_eq, beq_iff_eq] at hmark
      cases h
      exact ⟨.hexadecimal, rfl, by rw [hmark.1, hmark.2]; rfl⟩
    · split at h
      · rename_i hmark
        rw [Bool.and_eq_true, beq_iff_eq, beq_iff_eq] at hmark
        cases h
        exact ⟨.binary, rfl, by rw [hmark.1, hmark.2]; rfl⟩
      · cases h
        exact ⟨.decimal, rfl, rfl⟩
  · cases h
    exact ⟨.decimal, rfl, rfl⟩

/-- Decimal digits have no mark of another base among them. -/
theorem ne_of_writes_decimal {b : UInt8} {d : Nat} (h : Writes b d ∧ d < Base.decimal.radix) :
    b ≠ 'x'.toUInt8 ∧ b ≠ 'b'.toUInt8 := by
  obtain ⟨hwrites, hd⟩ := h
  have hd : d < 10 := hd
  have hvalue := (digitValue?_eq_some_iff (Nat.lt_trans hd (by decide))).mpr hwrites
  constructor
  · rintro rfl
    obtain rfl : 33 = d := Option.some.inj hvalue
    omega
  · rintro rfl
    obtain rfl : 11 = d := Option.some.inj hvalue
    omega

/-- The mark of a base is found in front of its digits. -/
theorem splitBase_of_spells {base : Base} {text : Bytes} {ds : List Nat}
    (h : Spells base text ds) : splitBase (base.mark ++ text) = (base.radix, text) := by
  cases base with
  | hexadecimal => rfl
  | binary => rfl
  | decimal =>
      show splitBase text = (10, text)
      rw [splitBase.eq_def]
      split
      · rename_i a b rest
        obtain ⟨d, -, hdigit⟩ := exists_of_mem_forall₂ h (List.mem_cons_of_mem a List.mem_cons_self)
        obtain ⟨hx, hb⟩ := ne_of_writes_decimal hdigit
        simp [hx, hb]
      · rfl

/-- A word that starts with a numeral for more than zero is read in the base of the numeral. -/
theorem splitBase_append {base : Base} {text : Bytes} {ds : List Nat} (h : Spells base text ds)
    (hpos : 0 < joinDigits base.radix 0 ds) (rest : Bytes) :
    splitBase (base.mark ++ (text ++ rest)) = (base.radix, text ++ rest) := by
  cases base with
  | hexadecimal => rfl
  | binary => rfl
  | decimal =>
      show splitBase (text ++ rest) = (10, text ++ rest)
      cases h with
      | nil => exact absurd hpos (Nat.lt_irrefl 0)
      | @cons b d text ds hdigit hdigits =>
          cases hdigits with
          | nil =>
              -- one digit, which is not the zero that a mark starts with
              have hb : b ≠ '0'.toUInt8 := by
                rintro rfl
                have hvalue := (digitValue?_eq_some_iff
                  (Nat.lt_of_lt_of_le hdigit.2 Base.decimal.radix_le)).mpr hdigit.1
                obtain rfl : 0 = d := Option.some.inj hvalue
                exact absurd hpos (Nat.lt_irrefl 0)
              rw [List.singleton_append, splitBase.eq_def]
              split
              · rename_i a c rest' heq
                obtain ⟨rfl, -⟩ := List.cons.inj heq
                simp [hb]
              · rfl
          | @cons c d' text ds hdigit' hdigits =>
              obtain ⟨hx, hb⟩ := ne_of_writes_decimal hdigit'
              simp [splitBase, hx, hb]

theorem bits?_natCast {bits : Nat} (hpos : 0 < bits) (hle : bits ≤ 64) :
    bits? bits = some bits := by
  rw [bits?, if_neg (by omega), if_pos]
  · rfl
  · rw [Bool.and_eq_true, decide_eq_true_iff, decide_eq_true_iff]
    omega

/-- **A NUMERAL IS READ AS ITS NUMBER** if the number fits, and is refused as too wide otherwise. -/
theorem read_of_denotes {word : Bytes} {n bits : Nat} (h : Denotes word n) (hpos : 0 < bits)
    (hle : bits ≤ 64) : read word bits = if n < 2 ^ bits then .ok n else .error .tooWide := by
  obtain ⟨base, text, ds, rfl, hne, hspells, rfl⟩ := h
  obtain ⟨b, rest, rfl⟩ := List.exists_cons_of_ne_nil hne
  rw [read, splitBase_of_spells hspells, bits?_natCast hpos hle]
  exact readDigits_of_spells hspells (Nat.two_pow_pos bits)

/-- Whatever is read, of whatever width, is a numeral. -/
theorem denotes_of_read {word : Bytes} {width : Int} {n : Nat} (h : read word width = .ok n) :
    Denotes word n := by
  rw [read.eq_def] at h
  split at h
  · cases h
  · cases h
  · rename_i radix text bits hne hsplit _
    obtain ⟨base, rfl, rfl⟩ := exists_base_of_splitBase hsplit
    obtain ⟨ds, hspells, rfl⟩ := exists_spells_of_readDigits h
    exact ⟨base, text, ds, rfl, hne, hspells, rfl⟩

/-- The numbers that are read are those that are denoted and fit. -/
theorem read_eq_ok_iff {word : Bytes} {n bits : Nat} (hpos : 0 < bits) (hle : bits ≤ 64) :
    read word bits = .ok n ↔ Denotes word n ∧ n < 2 ^ bits := by
  constructor
  · intro h
    have hdenotes := denotes_of_read h
    rw [read_of_denotes hdenotes hpos hle] at h
    split at h
    · rename_i hlt
      exact ⟨hdenotes, hlt⟩
    · cases h
  · rintro ⟨hdenotes, hlt⟩
    rw [read_of_denotes hdenotes hpos hle, if_pos hlt]

/-- The words that are too wide are those that start with a numeral for too much, whatever
    stands behind it. -/
theorem read_eq_tooWide_iff {word : Bytes} {bits : Nat} (hpos : 0 < bits) (hle : bits ≤ 64) :
    read word bits = .error .tooWide ↔ Overflows word (2 ^ bits) := by
  constructor
  · intro h
    rw [read.eq_def] at h
    split at h
    · cases h
    · cases h
    · rename_i radix text bits' _ hsplit hbits
      rw [bits?_natCast hpos hle, Option.some.injEq] at hbits
      subst hbits
      -- digits that are too much were read behind the mark of some base
      obtain ⟨base, rfl, rfl⟩ := exists_base_of_splitBase hsplit
      obtain ⟨front, rest, ds, rfl, hne, hspells, hwide⟩ := exists_spells_of_tooWide h
      refine ⟨base.mark ++ front, rest, _, ?_, ⟨base, front, ds, rfl, hne, hspells, rfl⟩, hwide⟩
      rw [List.append_assoc]
  · rintro ⟨front, rest, n, rfl, ⟨base, text, ds, rfl, hne, hspells, rfl⟩, hwide⟩
    -- reading stops behind these digits, and never comes to the rest
    have hlimit : 0 < 2 ^ bits := Nat.two_pow_pos bits
    obtain ⟨b, text, rfl⟩ := List.exists_cons_of_ne_nil hne
    rw [List.append_assoc, read, splitBase_append hspells (Nat.lt_of_lt_of_le hlimit hwide),
      bits?_natCast hpos hle]
    show readDigits base.radix (2 ^ bits) 0 (b :: text ++ rest) = _
    rw [readDigits_append hspells rest hlimit, if_neg (Nat.not_lt.mpr hwide)]

/-- A number written in decimal is read if it fits, and else refused as too wide. -/
theorem read_decimalNat (n : Nat) {bits : Nat} (hpos : 0 < bits) (hle : bits ≤ 64) :
    read (decimalNat n) bits = if n < 2 ^ bits then .ok n else .error .tooWide :=
  read_of_denotes (denotes_write .decimal n) hpos hle

/-! ## The base of a word -/

/-- The base of a word and what stands behind its mark.  A word in front of which no mark stands
    is decimal as a whole. -/
inductive MarkedAs : Bytes → Base → Bytes → Prop
  | hexadecimal {text : Bytes} : MarkedAs (Bytes.ofString "0x" ++ text) .hexadecimal text
  | binary {text : Bytes} : MarkedAs (Bytes.ofString "0b" ++ text) .binary text
  | decimal {word : Bytes} (hx : ¬ Bytes.ofString "0x" <+: word)
      (hb : ¬ Bytes.ofString "0b" <+: word) : MarkedAs word .decimal word

/-- A text that starts with digits of a base for a number of at least the limit. -/
def Exceeds (base : Base) (text : Bytes) (limit : Nat) : Prop :=
  ∃ front rest ds, text = front ++ rest ∧ front ≠ [] ∧ Spells base front ds ∧
    limit ≤ joinDigits base.radix 0 ds

/-- Every word is marked in some way, if only as decimal. -/
theorem exists_markedAs (word : Bytes) : ∃ base text, MarkedAs word base text := by
  by_cases hx : Bytes.ofString "0x" <+: word
  · obtain ⟨text, rfl⟩ := hx
    exact ⟨_, _, .hexadecimal⟩
  · by_cases hb : Bytes.ofString "0b" <+: word
    · obtain ⟨text, rfl⟩ := hb
      exact ⟨_, _, .binary⟩
    · exact ⟨_, _, .decimal hx hb⟩

namespace MarkedAs

variable {word text : Bytes} {base : Base}

theorem word_eq (h : MarkedAs word base text) : word = base.mark ++ text := by
  cases h <;> rfl

/-- A word is read behind the mark of its base. -/
theorem splitBase_eq (h : MarkedAs word base text) : splitBase word = (base.radix, text) := by
  cases h with
  | hexadecimal => rfl
  | binary => rfl
  | decimal hx hb =>
      rw [splitBase.eq_def]
      split
      · rename_i a b rest
        have hmarked : ∀ c : UInt8, ¬ ['0'.toUInt8, c] <+: a :: b :: rest →
            (a == '0'.toUInt8 && b == c) = false := by
          intro c hc
          rw [Bool.eq_false_iff, ne_eq, Bool.and_eq_true, beq_iff_eq, beq_iff_eq]
          rintro ⟨rfl, rfl⟩
          exact hc ⟨rest, rfl⟩
        rw [hmarked 'x'.toUInt8 hx, hmarked 'b'.toUInt8 hb]
        rfl
      · rfl

/-- No word is marked in two ways. -/
theorem unique {text' : Bytes} {base' : Base} (h : MarkedAs word base text)
    (h' : splitBase word = (base'.radix, text')) : base' = base ∧ text' = text := by
  obtain ⟨hradix, htext⟩ := Prod.mk.inj (h'.symm.trans h.splitBase_eq)
  refine ⟨?_, htext⟩
  cases base <;> cases base' <;> simp_all [Base.radix]

/-- A word starts with a numeral for too much if there are digits for too much behind its mark:
    a numeral in another base is the zero that a mark starts with. -/
theorem exceeds_iff (h : MarkedAs word base text) {limit : Nat} (hlimit : 0 < limit) :
    Exceeds base text limit ↔ Overflows word limit := by
  constructor
  · rintro ⟨front, rest, ds, rfl, hne, hspells, hle⟩
    refine ⟨base.mark ++ front, rest, _, ?_, ⟨base, front, ds, rfl, hne, hspells, rfl⟩, hle⟩
    rw [h.word_eq, List.append_assoc]
  · rintro ⟨front, rest, n, hword, ⟨base', text', ds, rfl, hne, hspells, rfl⟩, hle⟩
    rw [List.append_assoc] at hword
    have hsplit := splitBase_append hspells (Nat.lt_of_lt_of_le hlimit hle) rest
    rw [← hword] at hsplit
    obtain ⟨rfl, rfl⟩ := h.unique hsplit
    exact ⟨text', rest, ds, rfl, hne, hspells, hle⟩

end MarkedAs

end Numeral

/-- A number is read as the numeral that it is. -/
theorem readNumber_eq_ok {word : Bytes} {width : Int} {n : Nat} :
    readNumber word width = .ok n ↔ Numeral.read word width = .ok n := by
  rw [readNumber]
  cases Numeral.read word width with
  | ok m =>
      exact ⟨fun h => congrArg Except.ok (Except.ok.inj h),
        fun h => congrArg Except.ok (Except.ok.inj h)⟩
  | error f => cases f <;> exact ⟨nofun, nofun⟩

/-- Why a word is no number below a limit: too much is denoted, by the word or by its beginning,
    or nothing is. -/
inductive Numeral.Refused (word : Bytes) (limit : Nat) : Fault → Prop
  | wide (h : Overflows word limit) : Refused word limit .immediateRange
  | malformed (h : ∀ n, ¬ Denotes word n) (hfits : ¬ Overflows word limit) :
      Refused word limit (.notNumber word)

/-- **READING A NUMBER.**  A word is read as the number that it denotes if this fits, and refused
    for its width or its form otherwise. -/
theorem readNumber_decides (word : Bytes) {bits : Nat} (hpos : 0 < bits) (hle : bits ≤ 64) :
    Decides (readNumber word bits) (fun n => Numeral.Denotes word n ∧ n < 2 ^ bits)
      (Numeral.Refused word (2 ^ bits)) := by
  have hok : ∀ n, Numeral.read word bits = .ok n ↔ Numeral.Denotes word n ∧ n < 2 ^ bits :=
    fun n => Numeral.read_eq_ok_iff hpos hle
  have hwide : Numeral.read word bits = .error .tooWide ↔ Numeral.Overflows word (2 ^ bits) :=
    Numeral.read_eq_tooWide_iff hpos hle
  refine .of_cases ?_ ?_ ?_
  · intro n hn
    rw [readNumber, (hok n).mpr hn]
  · intro f hf
    cases hf with
    | wide h => rw [readNumber, hwide.mpr h]
    -- the reader has one other fault, which would say that the word is too wide
    | malformed hnone hfits =>
        cases hread : Numeral.read word bits with
        | ok n => exact absurd ((hok n).mp hread).1 (hnone n)
        | error failure =>
            cases failure with
            | tooWide => exact absurd (hwide.mp hread) hfits
            | malformed => rw [readNumber, hread]
  · -- a number that does not fit overflows with nothing behind it
    by_cases hoverflows : Numeral.Overflows word (2 ^ bits)
    · exact Or.inr ⟨_, .wide hoverflows⟩
    · by_cases hdenotes : ∃ n, Numeral.Denotes word n
      · obtain ⟨n, hn⟩ := hdenotes
        refine Or.inl ⟨n, hn, Nat.lt_of_not_le fun hle => hoverflows ?_⟩
        exact ⟨word, [], n, (List.append_nil word).symm, hn, hle⟩
      · exact Or.inr ⟨_, .malformed (not_exists.mp hdenotes) hoverflows⟩

/-- **THE OUTCOME OF READING A NUMBER.**  A word is read as a number exactly if it is a numeral for
    this number and the number fits.  A word has one base, and is refused for its width exactly
    if digits of this base for too much stand behind its mark, whatever follows them.
    In all other cases it is refused as no number. -/
theorem readNumber_outcome (word : Bytes) (bits : Nat) (hpos : 1 ≤ bits) (hle : bits ≤ 64) :
    (∀ n, readNumber word bits = .ok n ↔ Numeral.Denotes word n ∧ n < 2 ^ bits) ∧
    ∃ base text,
      (∀ base' text', Numeral.MarkedAs word base' text' ↔ base' = base ∧ text' = text) ∧
      (readNumber word bits = .error .immediateRange ↔ Numeral.Exceeds base text (2 ^ bits)) ∧
      (readNumber word bits = .error (.notNumber word) ↔
        (∀ n, ¬ (Numeral.Denotes word n ∧ n < 2 ^ bits)) ∧
          ¬ Numeral.Exceeds base text (2 ^ bits)) := by
  have hread := readNumber_decides word hpos hle
  obtain ⟨base, text, hmarked⟩ := Numeral.exists_markedAs word
  -- the mark of the word settles the base in which it could be too wide
  have hwide : readNumber word bits = .error .immediateRange ↔
      Numeral.Exceeds base text (2 ^ bits) := by
    rw [hread.error_iff, hmarked.exceeds_iff (Nat.two_pow_pos bits)]
    constructor
    · intro h
      cases h with
      | wide h => exact h
    · exact .wide
  refine ⟨hread.ok_iff, base, text, ?_, hwide, ?_⟩
  · intro base' text'
    constructor
    · intro h
      exact hmarked.unique h.splitBase_eq
    · rintro ⟨rfl, rfl⟩
      exact hmarked
  · constructor
    · intro h
      refine ⟨fun n hn => ?_, fun hexceeds => ?_⟩
      · cases h.symm.trans ((hread.ok_iff n).mpr hn)
      · cases h.symm.trans (hwide.mpr hexceeds)
    · -- some fault there is, and it is not the one for the width
      rintro ⟨hnone, hfits⟩
      obtain ⟨f, hf⟩ := exists_error_of_ne_ok fun n hn => hnone n ((hread.ok_iff n).mp hn)
      cases (hread.error_iff f).mp hf with
      | wide h => exact absurd (hwide.mp hf) hfits
      | malformed => exact hf

/-- Nine binary digits are too much for eight bits, though what follows is no binary digit. -/
theorem readNumber_outcome_digitBehind :
    (1 ≤ 8 ∧ 8 ≤ 64) ∧
      readNumber (Bytes.ofString "0b1000000002") (8 : Nat) = .error .immediateRange := by
  refine ⟨by decide, ?_⟩
  obtain ⟨-, base, text, hmarked, hwide, -⟩ :=
    readNumber_outcome (Bytes.ofString "0b1000000002") 8 (by decide) (by decide)
  obtain ⟨rfl, rfl⟩ := (hmarked .binary (Bytes.ofString "1000000002")).mp .binary
  refine hwide.mpr ⟨Bytes.ofString "100000000", Bytes.ofString "2", [1, 0, 0, 0, 0, 0, 0, 0, 0], ?_⟩
  decide

/-- A number of up to 64 bits is read exactly if the word denotes it and it fits. -/
theorem readNumber_eq_ok_iff {word : Bytes} {n bits : Nat} (hpos : 0 < bits) (hle : bits ≤ 64) :
    readNumber word bits = .ok n ↔ Numeral.Denotes word n ∧ n < 2 ^ bits := by
  rw [readNumber_eq_ok, Numeral.read_eq_ok_iff hpos hle]

/-- A number consists of identifier bytes. -/
theorem isWord_of_readNumber {word : Bytes} {width : Int} {n : Nat}
    (h : readNumber word width = .ok n) : ∀ b ∈ word, isWord b = true :=
  (Numeral.denotes_of_read (readNumber_eq_ok.mp h)).isWord.2

/-- **BACK FROM DECIMAL.**  What is written in decimal is read as the number that was written,
    and only if it fits. -/
theorem readNumber_decimal {a : Int} {bits n : Nat} (hpos : 0 < bits) (hle : bits ≤ 64)
    (h : readNumber (decimal a) bits = .ok n) : a = n ∧ n < 2 ^ bits := by
  cases a with
  | negSucc m => exact absurd (isWord_of_readNumber h _ List.mem_cons_self) (by decide)
  | ofNat m =>
      rw [decimal, readNumber_eq_ok, Numeral.read_decimalNat m hpos hle] at h
      split at h
      · rename_i hlt
        cases Except.ok.inj h
        exact ⟨rfl, hlt⟩
      · exact nomatch h

end TwoPass
