import TwoPass.Proofs.Machine.Rules
import TwoPass.Proofs.Source.Operands

/-!
# Printing — the text of an instruction is read as that instruction

A line is read whatever its case, its separators and the base of its number; an instruction is
printed in one way.  The printed text leaves out operands that are missing at the end, and these
are what a short line stands for.  So an instruction that was read can be printed and read again
(`read_text_of_spellable`).  Which instructions those are can be said without any text
(`Spellable`): the source names every register of the table but `st`, and the opcode decides how
wide an immediate is.  Legal they need not be.
-/

namespace TwoPass

open Bytes Reference

/-! ## Names -/

namespace Bytes

/-- Small letters are letters, and their own small form. -/
theorem of_isSmall (b : UInt8) : isSmall b = true →
    isLetter b = true ∧ isDigit b = false ∧ isAscii b = true ∧
      TwoPass.lowerAscii? b.toNat = some b := by
  revert b
  exact forall_byte (by decide +kernel)

/-- A name is its own lower case. -/
theorem IsName.lowerAscii? {w : Bytes} (h : w.IsName) : w.lowerAscii? = some w := by
  have hsmall : ∀ b ∈ w, isSmall b = true := List.all_eq_true.mp h.2
  have hglyphs : glyphs w = w.map Glyph.ascii :=
    glyphs_ascii fun b hb => (of_isSmall b (hsmall b hb)).2.2.1
  rw [Bytes.lowerAscii?, hglyphs, mapM_eq_some, List.forall₂_map_left_iff, List.forall₂_same]
  exact fun b hb => (of_isSmall b (hsmall b hb)).2.2.2

/-- A name is no number. -/
theorem IsName.head_isDigit {w : Bytes} (h : w.IsName) : w.head?.any isDigit = false := by
  cases w with
  | nil => exact absurd rfl h.1
  | cons b w => exact (of_isSmall b (List.all_eq_true.mp h.2 b List.mem_cons_self)).2.1

/-- Where no two spellings are the same, an entry is found at its own place. -/
theorem findIdx?_of_nodup {α : Type} {table : List α} {spelling : α → String} {found : α → Bool}
    (hnodup : (table.map fun i => Bytes.ofString (spelling i)).Nodup) {n : Nat}
    (hn : n < table.length) (htrue : found table[n] = true)
    (hfound : ∀ i, found i = true →
      Bytes.ofString (spelling i) = Bytes.ofString (spelling table[n])) :
    table.findIdx? found = some n := by
  refine List.findIdx?_eq_some_iff_getElem.mpr ⟨hn, htrue, ?_⟩
  intro j hj hfirst
  have hlength : (table.map fun i => Bytes.ofString (spelling i)).length = table.length :=
    List.length_map _
  have hne := List.pairwise_iff_getElem.mp hnodup j n (by omega) (by omega) hj
  rw [List.getElem_map, List.getElem_map] at hne
  exact hne (hfound _ hfirst)

end Bytes

/-- A register that source text has a name for. -/
def Register.Nameable (r : Register) : Prop := r.InTable ∧ r ≠ st

instance (r : Register) : Decidable r.Nameable := inferInstanceAs (Decidable (_ ∧ _))

namespace Register

theorem read_eq_ok {word : Bytes} {r : Register} :
    Register.read word = .ok r ↔ ofWord? word = some r := by
  rw [Register.read]
  cases ofWord? word with
  | none =>
      constructor
      · intro h
        cases h
      · intro h
        cases h
  | some r' => rw [Except.ok.injEq, Option.some.injEq]

theorem nameable_none : none.Nameable := by decide

/-- The registers that can be named are the addressable entries of the table. -/
theorem nameable_iff {n : Nat} (hn : n < table.length) :
    (⟨n⟩ : Register).Nameable ↔ table[n].addressable = true := by
  revert n
  decide

/-- What is read as a register has a name. -/
theorem nameable_of_read {word : Bytes} {r : Register} (h : Register.read word = .ok r) :
    r.Nameable := by
  rw [read_eq_ok] at h
  obtain ⟨name, n, -, hn, rfl⟩ := exists_of_ofWord? h
  obtain ⟨hlt, hfound, -⟩ := List.findIdx?_eq_some_iff_getElem.mp hn
  exact (nameable_iff hlt).mpr (Bool.and_eq_true_iff.mp hfound).1

theorem name_eq {n : Nat} (hn : n < table.length) : (⟨n⟩ : Register).name = table[n].name := by
  simp [name, enumeration, Enumeration.name, Enumeration.lookup?, hn]

/-- The names of registers can be written in source. -/
theorem isName_name {r : Register} (h : r.InTable) : (Bytes.ofString r.name).IsName := by
  revert h
  apply forall_inTable
  intro n hn
  rw [name_eq hn]
  exact isName_of_mem _ (List.getElem_mem hn)

/-- No two registers have one name. -/
theorem nodup_names : (table.map fun i => Bytes.ofString i.name).Nodup := by decide

/-- The name of a register is read as the register. -/
theorem ofWord?_name {r : Register} (h : r.Nameable) :
    ofWord? (Bytes.ofString r.name) = some r := by
  obtain ⟨number⟩ := r
  obtain ⟨n, rfl⟩ := Int.eq_ofNat_of_zero_le h.1.1
  have hn : n < table.length := Int.ofNat_lt.mp h.1.2
  have hat : table.findIdx? (fun i => i.addressable &&
      Bytes.ofString i.name == Bytes.ofString table[n].name) = some n := by
    refine findIdx?_of_nodup nodup_names hn ?_ ?_
    · rw [(nameable_iff hn).mp h, Bool.true_and, beq_self_eq_true]
    · intro i hi
      exact eq_of_beq (Bool.and_eq_true_iff.mp hi).2
  rw [ofWord?, (isName_name h.1).lowerAscii?, Option.bind_some, name_eq hn, hat]
  rfl

end Register

namespace Opcode

/-- An opcode that was read is defined. -/
theorem isDefined_of_read {word : Bytes} {op : Opcode} (h : Opcode.read word = .ok op) :
    op.isDefined = true := by
  rw [read_eq_ok] at h
  obtain ⟨name, n, -, hn, rfl⟩ := exists_of_ofWord? h
  obtain ⟨hlt, -⟩ := List.findIdx?_eq_some_iff_getElem.mp hn
  exact isDefined_iff.mpr ⟨Int.natCast_nonneg n, Int.ofNat_lt.mpr hlt⟩

theorem name_eq {n : Nat} (hn : n < table.length) : (⟨n⟩ : Opcode).name = table[n].mnemonic := by
  simp [name, enumeration, Enumeration.name, Enumeration.lookup?, hn]

/-- The mnemonics can be written in source. -/
theorem isName_name {op : Opcode} (h : op.isDefined = true) :
    (Bytes.ofString op.name).IsName := by
  obtain ⟨n, hn, rfl⟩ := exists_of_isDefined h
  rw [name_eq hn]
  exact isName_of_mem _ (List.getElem_mem hn)

/-- No two opcodes have one mnemonic. -/
theorem nodup_names : (table.map fun i => Bytes.ofString i.mnemonic).Nodup := by decide

/-- The name of an opcode spells the opcode. -/
theorem ofWord?_name {op : Opcode} (h : op.isDefined = true) :
    ofWord? (Bytes.ofString op.name) = some op := by
  have hname := (isName_name h).lowerAscii?
  obtain ⟨n, hn, rfl⟩ := exists_of_isDefined h
  have hat : table.findIdx? (fun i => Bytes.ofString i.mnemonic ==
      Bytes.ofString table[n].mnemonic) = some n :=
    findIdx?_of_nodup nodup_names hn (beq_self_eq_true _) fun i hi => eq_of_beq hi
  rw [ofWord?, hname, Option.bind_some, name_eq hn, hat]
  rfl

end Opcode

/-! ## Operands -/

/-- The second operands that source text has behind an opcode: registers with a name, and
    immediates of the width that the opcode takes. -/
inductive Operand.Writable (op : Opcode) : Operand → Prop
  | register {r : Register} (h : r.Nameable) : Writable op (.ofRegister r)
  | short (h : op ≠ .movi) (v : BitVec 8) : Writable op (.short v)
  | large (h : op = .movi) (v : BitVec 16) : Writable op (.large v)

namespace Operand

/-- A second operand that was read can be written again. -/
theorem writable_of_readSecond {op : Opcode} {word : Bytes} {b : Operand}
    (h : readSecond op word = .ok b) : b.Writable op := by
  rw [readSecond] at h
  split at h
  · obtain ⟨n, -, h⟩ := bind_eq_ok.mp h
    split at h
    · rename_i hop
      cases h
      exact .large hop _
    · rename_i hop
      split at h
      · cases h
        exact .short hop _
      · cases h
  · obtain ⟨r, hr, rfl⟩ := map_eq_ok.mp h
    exact .register (Register.nameable_of_read hr)

theorem ofString_text_short (v : BitVec 8) :
    Bytes.ofString (short v).text = decimalNat v.toNat := by
  have hvalue : (v.setWidth 16).toNat = v.toNat := by
    rw [BitVec.toNat_setWidth]
    have hlt := v.isLt
    omega
  rw [← hvalue]
  exact ofString_toString _

theorem ofString_text_large (v : BitVec 16) :
    Bytes.ofString (large v).text = decimalNat v.toNat := ofString_toString _

/-- A number is an immediate, of the width that the opcode takes. -/
theorem readSecond_of_number {op : Opcode} {word : Bytes} {n : Nat}
    (hdigit : word.head?.any isDigit = true) (h : readNumber word (16 : Nat) = .ok n) :
    readSecond op word =
      if op = .movi then .ok (large (BitVec.ofNat 16 n))
      else if n ≤ 0xff then .ok (short (BitVec.ofNat 8 n)) else .error .immediateRange := by
  rw [readSecond, if_pos hdigit, readImmediate]
  exact (congrArg (· >>= _) h).trans rfl

/-- A decimal number is read as the immediate that the opcode takes. -/
theorem readSecond_decimalNat {op : Opcode} {n : Nat} (h : n < 2 ^ 16) :
    readSecond op (decimalNat n) =
      if op = .movi then .ok (large (BitVec.ofNat 16 n))
      else if n ≤ 0xff then .ok (short (BitVec.ofNat 8 n)) else .error .immediateRange := by
  have hdenotes : Numeral.Denotes (decimalNat n) n := Numeral.denotes_write .decimal n
  refine readSecond_of_number hdenotes.head_isDigit ?_
  rw [readNumber_eq_ok, Numeral.read_decimalNat n (by decide) (by decide), if_pos h]

/-- The text of a second operand is read as that operand. -/
theorem readSecond_text {op : Opcode} {b : Operand} (h : b.Writable op) :
    readSecond op (Bytes.ofString b.text) = .ok b := by
  cases h with
  | @register r hr =>
      have hletter : (Bytes.ofString r.name).head?.any isDigit ≠ true := by
        rw [(Register.isName_name hr.1).head_isDigit]
        exact Bool.false_ne_true
      show readSecond op (Bytes.ofString r.name) = .ok (ofRegister r)
      rw [readSecond, if_neg hletter, Register.read_eq_ok.mpr (Register.ofWord?_name hr)]
      rfl
  | short hop v =>
      have hlt := v.isLt
      rw [ofString_text_short, readSecond_decimalNat (by omega), if_neg hop, if_pos (by omega),
        BitVec.ofNat_toNat, BitVec.setWidth_eq]
  | large hop v =>
      rw [ofString_text_large, readSecond_decimalNat v.isLt, if_pos hop, BitVec.ofNat_toNat,
        BitVec.setWidth_eq]

end Operand

/-! ## The words of the text -/

/-- A word of identifier bytes, as names and numbers are. -/
def Bytes.IsPlainWord (w : Bytes) : Prop := w ≠ [] ∧ ∀ b ∈ w, isWord b = true

theorem Bytes.IsName.isPlainWord {w : Bytes} (h : w.IsName) : w.IsPlainWord := by
  refine ⟨h.1, ?_⟩
  intro b hb
  rw [isWord, (of_isSmall b (List.all_eq_true.mp h.2 b hb)).1, Bool.true_or, Bool.true_or]

theorem Bytes.isPlainWord_decimalNat (n : Nat) : (decimalNat n).IsPlainWord := by
  refine ⟨decimalNat_ne_nil n, ?_⟩
  intro b hb
  rw [isWord, isDigit_of_mem_decimalNat b hb, Bool.or_true, Bool.true_or]

/-- An operand is written as one word. -/
theorem Operand.Writable.isPlainWord_text {op : Opcode} {b : Operand} (h : b.Writable op) :
    (Bytes.ofString b.text).IsPlainWord := by
  cases h with
  | register hr => exact (Register.isName_name hr.1).isPlainWord
  | short _ v =>
      rw [Operand.ofString_text_short]
      exact isPlainWord_decimalNat _
  | large _ v =>
      rw [Operand.ofString_text_large]
      exact isPlainWord_decimalNat _

namespace Instruction

/-- A word up to a separator or the end is the first word of a line. -/
theorem wordsBy_word {w s : Bytes} (hw : w.IsPlainWord)
    (hs : ∀ g ∈ (glyphs s).head?, isSeparator g = true) :
    wordsBy isSeparator (w ++ s) = w :: wordsBy isSeparator s := by
  refine wordsBy_append hw.1 (fun b hb => ?_) hs
  have hplain := isPlain_of_isWord (hw.2 b hb)
  exact ⟨isAscii_of_isPlain b hplain, isSeparator_of_isPlain b hplain⟩

theorem wordsBy_separator {b : UInt8} (hascii : isAscii b = true)
    (hb : isSeparator (.ascii b) = true) (s : Bytes) :
    wordsBy isSeparator (b :: s) = wordsBy isSeparator s := by
  rw [wordsBy_eq, glyphs_cons_ascii hascii, glyphWords_separator hb, wordsBy_eq]

theorem wordsBy_single {w : Bytes} (hw : w.IsPlainWord) : wordsBy isSeparator w = [w] := by
  have h := wordsBy_word (s := []) hw nofun
  rwa [List.append_nil] at h

/-- A word in front of a separator. -/
theorem wordsBy_cons {w : Bytes} (hw : w.IsPlainWord) {b : UInt8} (hascii : isAscii b = true)
    (hb : isSeparator (.ascii b) = true) (s : Bytes) :
    wordsBy isSeparator (w ++ b :: s) = w :: wordsBy isSeparator s := by
  rw [wordsBy_word hw, wordsBy_separator hascii hb]
  intro g hg
  rw [glyphs_cons_ascii hascii] at hg
  cases hg
  exact hb

/-- The words that an instruction is printed with. -/
def spelling (i : Instruction) : List Bytes :=
  if i.b ≠ .none then
    [Bytes.ofString i.opcode.name, Bytes.ofString i.a.text, Bytes.ofString i.b.text]
  else if i.a ≠ .none then [Bytes.ofString i.opcode.name, Bytes.ofString i.a.text]
  else [Bytes.ofString i.opcode.name]

/-- The words of the printed text, whatever the operands are, as long as each is one word. -/
theorem wordsBy_text {i : Instruction} (hop : (Bytes.ofString i.opcode.name).IsPlainWord)
    (ha : (Bytes.ofString i.a.text).IsPlainWord) (hb : (Bytes.ofString i.b.text).IsPlainWord) :
    wordsBy isSeparator (Bytes.ofString i.text) = i.spelling := by
  have hblank : isSeparator (.ascii ' '.toUInt8) = true := by decide
  have hcomma : isSeparator (.ascii ','.toUInt8) = true := by decide
  rw [text, spelling]
  split
  · -- the comma and the blank behind it are two separators with no word between them
    have htext : Bytes.ofString s!"{i.opcode.name} {i.a.text}, {i.b.text}" =
        Bytes.ofString i.opcode.name ++ ' '.toUInt8 :: (Bytes.ofString i.a.text ++
          ','.toUInt8 :: ' '.toUInt8 :: Bytes.ofString i.b.text) := by
      simp only [ofString_append, List.append_assoc]
      rfl
    rw [htext, wordsBy_cons hop (by decide) hblank, wordsBy_cons ha (by decide) hcomma,
      wordsBy_separator (by decide) hblank, wordsBy_single hb]
  · split
    · have htext : Bytes.ofString s!"{i.opcode.name} {i.a.text}" =
          Bytes.ofString i.opcode.name ++ ' '.toUInt8 :: Bytes.ofString i.a.text := by
        simp only [ofString_append, List.append_assoc]
        rfl
      rw [htext, wordsBy_cons hop (by decide) hblank, wordsBy_single ha]
    · exact wordsBy_single hop

/-! ## Instructions -/

/-- What can be read is made of a defined opcode, a register with a name, and a second operand
    that the opcode can have. -/
def Spellable (i : Instruction) : Prop :=
  ∃ (op : Opcode) (r : Register) (b : Operand), (0 ≤ op.number ∧ op.number < 57) ∧ r.Nameable ∧
    b.Writable op ∧ make? op (.ofRegister r) b = some i

/-- Opcode, register and operand make an instruction that can be written. -/
theorem spellable_derive {op : Opcode} {r : Register} {b : Operand} (hop : op.isDefined = true)
    (hr : r.Nameable) (hb : b.Writable op) : (derive op (.ofRegister r) b).Spellable :=
  ⟨op, r, b, Opcode.isDefined_iff.mp hop, hr, hb, rfl⟩

/-- Every instruction that was read can be written. -/
theorem spellable_of_ofWords {words : List Bytes} {i : Instruction} (h : ofWords words = .ok i) :
    i.Spellable := by
  match words with
  | [] => cases h
  -- operands that are left out are registers without a name
  | [op] =>
      obtain ⟨opcode, hop, h⟩ := bind_eq_ok.mp h
      cases pure_eq_ok.mp h
      exact spellable_derive (Opcode.isDefined_of_read hop) Register.nameable_none
        (.register Register.nameable_none)
  | [op, a] =>
      obtain ⟨opcode, hop, h⟩ := bind_eq_ok.mp h
      obtain ⟨r, hr, h⟩ := bind_eq_ok.mp h
      cases pure_eq_ok.mp h
      exact spellable_derive (Opcode.isDefined_of_read hop) (Register.nameable_of_read hr)
        (.register Register.nameable_none)
  | [op, a, b] =>
      obtain ⟨opcode, hop, h⟩ := bind_eq_ok.mp h
      obtain ⟨r, hr, h⟩ := bind_eq_ok.mp h
      obtain ⟨second, hsecond, h⟩ := bind_eq_ok.mp h
      cases pure_eq_ok.mp h
      exact spellable_derive (Opcode.isDefined_of_read hop) (Register.nameable_of_read hr)
        (Operand.writable_of_readSecond hsecond)
  | _ :: _ :: _ :: _ :: _ => cases h

/-- The words that an instruction is printed with are read as the instruction. -/
theorem ofWords_spelling {op : Opcode} {r : Register} {b : Operand} (hop : op.isDefined = true)
    (hr : r.Nameable) (hb : b.Writable op) :
    ofWords (derive op (.ofRegister r) b).spelling = .ok (derive op (.ofRegister r) b) := by
  have hopcode := Opcode.read_eq_ok.mpr (Opcode.ofWord?_name hop)
  have hregister := Register.read_eq_ok.mpr (Register.ofWord?_name hr)
  have hsecond := Operand.readSecond_text hb
  rw [spelling]
  split
  · refine bind_eq_ok.mpr ⟨_, hopcode, bind_eq_ok.mpr ⟨_, hregister, ?_⟩⟩
    exact bind_eq_ok.mpr ⟨_, hsecond, rfl⟩
  · -- an operand that is left out is the one that a shorter line stands for
    rename_i hnone
    have hnone : b = .none := Decidable.of_not_not hnone
    subst hnone
    split
    · exact bind_eq_ok.mpr ⟨_, hopcode, bind_eq_ok.mpr ⟨_, hregister, rfl⟩⟩
    · rename_i hnone
      have hnone : Operand.ofRegister r = .none := Decidable.of_not_not hnone
      rw [hnone]
      exact bind_eq_ok.mpr ⟨_, hopcode, rfl⟩

/-- An instruction that can be read is read from its own text. -/
theorem read_text_of_spellable {i : Instruction} (h : i.Spellable) :
    read (Bytes.ofString i.text) = .ok i := by
  obtain ⟨op, r, b, hop, hr, hb, hi⟩ := h
  have hop : op.isDefined = true := Opcode.isDefined_iff.mpr hop
  obtain rfl : derive op (.ofRegister r) b = i := Option.some.inj hi
  rw [read, wordsBy_text, ofWords_spelling hop hr hb]
  · exact (Opcode.isName_name hop).isPlainWord
  · exact (Register.isName_name hr.1).isPlainWord
  · exact hb.isPlainWord_text

/-- **PRINTING UNDOES READING.**  An instruction that was read from any line is read again from
    its own text, and the instructions that are read from some line are those that can be
    spelled. -/
theorem read_text (i : Instruction) :
    (∀ line, read line = .ok i → read (Bytes.ofString i.text) = .ok i) ∧
      ((∃ line, read line = .ok i) ↔ i.Spellable) := by
  refine ⟨fun line h => read_text_of_spellable (spellable_of_ofWords h), ?_, ?_⟩
  · rintro ⟨line, h⟩
    exact spellable_of_ofWords h
  · intro h
    exact ⟨Bytes.ofString i.text, read_text_of_spellable h⟩

/-- Capitals, commas in a row and a hexadecimal number are read, and printed otherwise. -/
def loudLine : Bytes := Bytes.ofString "MOVI,, Ax 0xFf"

/-- What that line is read as. -/
def loudInstruction : Instruction := derive .movi (.ofRegister ⟨1⟩) (.large 255)

/-- An instruction written in another way than it is printed. -/
theorem read_text_loud :
    read loudLine = .ok loudInstruction ∧
      read (Bytes.ofString loudInstruction.text) = .ok loudInstruction ∧
      loudInstruction.text = "movi ax, 255" ∧ loudInstruction.Spellable := by
  have hread : read loudLine = .ok loudInstruction := by rfl
  refine ⟨hread, (read_text loudInstruction).1 loudLine hread, by decide, ?_⟩
  exact (read_text loudInstruction).2.mp ⟨loudLine, hread⟩

end Instruction

end TwoPass
