import TwoPass.Proofs.Source.Directives
import TwoPass.Proofs.Source.Mnemonics
import TwoPass.Proofs.Text.Numerals

/-!
# Operands — a reference that is read stands for the whole address

A reference is replaced by an address in decimal, and the word that results is read again.
Nothing else can come of it than the address: decimal digits name no register and no opcode, so
the word is read as a number; a number has no byte that could not stand in the name, so the name
ends where the word does; and a number that is read fits.  Behind the width that the number is
read with, an instruction has narrower limits of its own, and these are checked and not cut to.
`Instruction.carries_of_read` and `Directive.carries_of_read` say so for the two kinds of line.
-/

namespace TwoPass

open Bytes Reference

/-! ## Words that cannot be names -/

/-- A small letter, as in the names of opcodes and registers. -/
def Bytes.isSmall (b : UInt8) : Bool := 'a'.toUInt8 ≤ b && b ≤ 'z'.toUInt8

/-- An ASCII byte that lower-cases to a small letter is a letter. -/
theorem isLetter_of_lowerAscii? (b : UInt8) :
    (lowerAscii? b.toNat).any isSmall = true → isLetter b = true ∨ isAscii b = false := by
  revert b
  exact forall_byte (by decide +kernel)

/-- A text that lower-cases to small letters has no other ASCII bytes than letters. -/
theorem Bytes.isLetter_of_mem_lowerAscii? {s name : Bytes} (h : s.lowerAscii? = some name)
    (hname : ∀ c ∈ name, isSmall c = true) {b : UInt8} (hb : b ∈ s)
    (hascii : isAscii b = true) : isLetter b = true := by
  -- an ASCII byte is a glyph of its own wherever it stands
  obtain ⟨front, behind, rfl⟩ := List.append_of_mem hb
  have hstarts : StartsGlyph (b :: behind) :=
    startsGlyph_of_ascii (a := [b]) (List.cons_ne_nil _ _)
      (fun b' hb' => List.mem_singleton.mp hb' ▸ hascii) behind
  have hglyph : .ascii b ∈ glyphs (front ++ b :: behind) := by
    rw [glyphs_append front hstarts, glyphs_cons_ascii hascii]
    exact List.mem_append_right _ List.mem_cons_self
  obtain ⟨c, hc, hlower⟩ := exists_of_mem_forall₂ (mapM_eq_some.mp h) hglyph
  rcases isLetter_of_lowerAscii? b (Option.any_eq_true _ _ |>.mpr ⟨c, hlower, hname c hc⟩) with
    hletter | hwide
  · exact hletter
  · exact absurd hascii (hwide ▸ Bool.false_ne_true)

/-- How a name is spelled: in small letters, of which there is at least one. -/
def Bytes.IsName (w : Bytes) : Prop := w ≠ [] ∧ w.all isSmall = true

instance (w : Bytes) : Decidable w.IsName := inferInstanceAs (Decidable (_ ∧ _))

/-- A word found by its spelling in a table of names has no other ASCII bytes than letters. -/
theorem Bytes.isLetter_of_findIdx? {α : Type} {table : List α} {spelling : α → String}
    {found : α → Bool} {word name : Bytes} {n : Nat} (hname : word.lowerAscii? = some name)
    (hn : table.findIdx? found = some n)
    (hfound : ∀ i, found i = true → Bytes.ofString (spelling i) = name)
    (hnames : ∀ i ∈ table, (Bytes.ofString (spelling i)).IsName) {b : UInt8} (hb : b ∈ word)
    (hascii : isAscii b = true) : isLetter b = true := by
  obtain ⟨hlt, htrue, -⟩ := List.findIdx?_eq_some_iff_getElem.mp hn
  refine isLetter_of_mem_lowerAscii? hname ?_ hb hascii
  rw [← hfound _ htrue]
  exact List.all_eq_true.mp (hnames _ (List.getElem_mem hlt)).2

theorem Register.isName_of_mem : ∀ i ∈ table, (Bytes.ofString i.name).IsName := by decide

theorem Opcode.isName_of_mem : ∀ i ∈ table, (Bytes.ofString i.mnemonic).IsName := by decide

/-- A register is written with letters, as far as it is written in ASCII. -/
theorem Register.isLetter_of_ofWord? {word : Bytes} {r : Register}
    (h : Register.ofWord? word = some r) {b : UInt8} :
    b ∈ word → isAscii b = true → isLetter b = true := by
  obtain ⟨name, n, hname, hn, -⟩ := exists_of_ofWord? h
  refine isLetter_of_findIdx? hname hn ?_ isName_of_mem
  intro i hi
  rw [Bool.and_eq_true, beq_iff_eq] at hi
  exact hi.2

theorem Opcode.isLetter_of_ofWord? {word : Bytes} {op : Opcode}
    (h : Opcode.ofWord? word = some op) {b : UInt8} :
    b ∈ word → isAscii b = true → isLetter b = true := by
  obtain ⟨name, n, hname, hn, -⟩ := exists_of_ofWord? h
  exact isLetter_of_findIdx? hname hn (fun i hi => beq_iff_eq.mp hi) isName_of_mem

/-- An address in decimal starts with an ASCII byte that is no letter. -/
theorem Bytes.exists_mem_decimal (a : Int) :
    ∃ b ∈ decimal a, isAscii b = true ∧ isLetter b = false := by
  have hbytes : ∀ b : UInt8, isDigit b = true ∨ b = '-'.toUInt8 →
      isAscii b = true ∧ isLetter b = false := forall_byte (by decide +kernel)
  obtain ⟨b, hb⟩ := List.exists_mem_of_ne_nil _ (decimal_ne_nil a)
  exact ⟨b, hb, hbytes b (mem_decimal b hb)⟩

/-! ## A reference as a word -/

namespace Reference

variable {labels : LabelTable} {name word : Bytes}

/-- A reference is replaced by its address, and what stands behind its name is kept. -/
theorem substitute_single (hname : mark ∉ name) (h : substitute labels (mark :: name) = .ok word) :
    ∃ a, labels.address? (name.takeWhile isWord) = some a ∧
      word = decimal a ++ name.dropWhile isWord := by
  have hrest : mark ∉ name.dropWhile isWord :=
    fun hmem => hname ((List.dropWhile_sublist isWord).mem hmem)
  rw [substitute_mark, substitute_of_not_mem hrest] at h
  split at h
  · rename_i a ha
    exact ⟨a, ha, (Except.ok.inj h).symm⟩
  · exact nomatch h

/-- **A REFERENCE READ AS A NUMBER.**  It is the address of its name, and the address fits. -/
theorem readNumber_single {bits n : Nat} (hpos : 0 < bits) (hle : bits ≤ 64)
    (hname : mark ∉ name) (h : substitute labels (mark :: name) = .ok word)
    (hread : readNumber word bits = .ok n) : labels.address? name = some n ∧ n < 2 ^ bits := by
  obtain ⟨a, ha, rfl⟩ := substitute_single hname h
  -- what stands behind the name is part of the number, so it belongs to the name
  have hall : ∀ b ∈ name, isWord b = true := by
    intro b hb
    rw [← List.takeWhile_append_dropWhile (p := isWord) (l := name)] at hb
    rcases List.mem_append.mp hb with hb | hb
    · exact List.mem_takeWhile_imp hb
    · exact isWord_of_readNumber hread b (List.mem_append_right _ hb)
  rw [List.takeWhile_eq_self_iff.mpr hall] at ha
  rw [List.dropWhile_eq_nil_iff.mpr hall, List.append_nil] at hread
  obtain ⟨rfl, hlt⟩ := readNumber_decimal hpos hle hread
  exact ⟨ha, hlt⟩

/-- A reference is no register. -/
theorem not_register_single {r : Register} (hname : mark ∉ name)
    (h : substitute labels (mark :: name) = .ok word) : Register.read word ≠ .ok r := by
  intro hread
  obtain ⟨a, -, rfl⟩ := substitute_single hname h
  obtain ⟨b, hb, hascii, hletter⟩ := exists_mem_decimal a
  rw [Register.read] at hread
  split at hread
  · rename_i r' hr'
    have hb' := Register.isLetter_of_ofWord? hr' (List.mem_append_left _ hb) hascii
    exact absurd hb' (hletter ▸ Bool.false_ne_true)
  · exact nomatch hread

/-- What spells a mnemonic after its references are filled in had none. -/
theorem eq_of_mnemonic {w : Bytes} {op : Opcode} (h : substitute labels w = .ok word)
    (hop : Opcode.ofWord? word = some op) : word = w := by
  refine eq_of_substitute h fun a => ?_
  obtain ⟨b, hb, hascii, hletter⟩ := exists_mem_decimal a
  refine ⟨b, hb, fun hmem => ?_⟩
  exact absurd (Opcode.isLetter_of_ofWord? hop hmem hascii) (hletter ▸ Bool.false_ne_true)

end Reference

/-! ## Instructions -/

/-- The addresses that there is room for behind an opcode. -/
def Opcode.Fits (op : Opcode) (a : Nat) : Prop :=
  (op = .movi ∧ a ≤ 65535) ∨ (op.shape = .regImm5 ∧ a ≤ 31)

namespace Instruction

/-- An instruction with an address as its second operand, and with room for it. -/
def Carries (i : Instruction) (a : Nat) : Prop :=
  (i.opcode = .movi ∧ a ≤ 65535 ∧ i.b = .large (BitVec.ofNat 16 a)) ∨
    (i.opcode.shape = .regImm5 ∧ a ≤ 31 ∧ i.b = .short (BitVec.ofNat 8 a))

/-- What an instruction carries, its opcode has room for. -/
theorem Carries.fits {i : Instruction} {a : Nat} (h : i.Carries a) : i.opcode.Fits a := by
  rcases h with ⟨hop, ha, -⟩ | ⟨hshape, ha, -⟩
  · exact Or.inl ⟨hop, ha⟩
  · exact Or.inr ⟨hshape, ha⟩

/-- Behind a mnemonic, a word is read as a register or as the second operand. -/
theorem operand_of_ofWords {op : Bytes} {operands : List Bytes} {i : Instruction}
    (h : ofWords (op :: operands) = .ok i) {j : Nat} {word : Bytes}
    (hword : operands[j]? = some word) :
    (∃ r, Register.read word = .ok r) ∨ Operand.readSecond i.opcode word = .ok i.b := by
  match operands, j with
  | [], _ => exact nomatch hword
  | [_], 0 =>
      cases hword
      obtain ⟨opcode, -, h⟩ := bind_eq_ok.mp h
      obtain ⟨a, ha, -⟩ := bind_eq_ok.mp h
      exact Or.inl ⟨a, ha⟩
  | [_, _], 0 =>
      cases hword
      obtain ⟨opcode, -, h⟩ := bind_eq_ok.mp h
      obtain ⟨a, ha, -⟩ := bind_eq_ok.mp h
      exact Or.inl ⟨a, ha⟩
  | [_, _], 1 =>
      cases hword
      obtain ⟨opcode, -, h⟩ := bind_eq_ok.mp h
      obtain ⟨a, -, h⟩ := bind_eq_ok.mp h
      obtain ⟨b, hb, h⟩ := bind_eq_ok.mp h
      cases pure_eq_ok.mp h
      exact Or.inr hb
  | _ :: _ :: _ :: _, _ => exact nomatch h

end Instruction

/-- A reference in the second place is read as an immediate, of the width of the opcode. -/
theorem Operand.readSecond_single {labels : LabelTable} {name word : Bytes} {op : Opcode}
    {b : Operand} (hname : mark ∉ name) (h : substitute labels (mark :: name) = .ok word)
    (hread : readSecond op word = .ok b) :
    ∃ a : Nat, labels.address? name = some (a : Int) ∧
      ((op = .movi ∧ a ≤ 65535 ∧ b = large (BitVec.ofNat 16 a)) ∨
        (op ≠ .movi ∧ a ≤ 255 ∧ b = short (BitVec.ofNat 8 a))) := by
  rw [readSecond] at hread
  split at hread
  · obtain ⟨a, hnumber, hread⟩ := bind_eq_ok.mp hread
    have hnumber : readNumber word (16 : Nat) = .ok a := hnumber
    obtain ⟨haddress, hlt⟩ := readNumber_single (by decide) (by decide) hname h hnumber
    refine ⟨a, haddress, ?_⟩
    split at hread
    · rename_i hop
      exact Or.inl ⟨hop, by omega, (Except.ok.inj hread).symm⟩
    · rename_i hop
      split at hread
      · rename_i hle
        exact Or.inr ⟨hop, hle, (Except.ok.inj hread).symm⟩
      · exact nomatch hread
  · obtain ⟨r, hr, -⟩ := map_eq_ok.mp hread
    exact absurd hr (not_register_single hname h)

namespace Instruction

/-- An accepted instruction with a short immediate takes five bits and has no more. -/
theorem regImm5_of_short {i : Instruction} {v : BitVec 8} (h : i.validate = .ok ())
    (hop : i.opcode ≠ .movi) (hb : i.b = .short v) :
    i.opcode.shape = .regImm5 ∧ v.toNat ≤ 31 := by
  obtain ⟨hdef, -, -, -, hshape⟩ := check_eq_ok.mp (validate_eq_ok.mp h)
  have hregister : i.b.isRegister ≠ true := by
    rw [hb]
    exact Bool.false_ne_true
  -- the other shapes want a register there, or belong to `movi`
  cases hs : i.opcode.shape with
  | none =>
      rw [hs] at hshape
      exact absurd (checkShape_none.mp hshape).1 hregister
  | reg =>
      rw [hs] at hshape
      exact absurd (checkShape_reg.mp hshape).1 hregister
  | regReg =>
      rw [hs] at hshape
      exact absurd (checkShape_regReg.mp hshape).1 hregister
  | regImm16 => exact absurd ((Opcode.shape_eq_regImm16_iff hdef).mp hs) hop
  | regImm5 =>
      rw [hs, checkShape_regImm5, hb] at hshape
      have hle : (v.setWidth 16).toNat ≤ 31 := hshape.2.2
      have hlt := v.isLt
      rw [BitVec.toNat_setWidth] at hle
      exact ⟨rfl, by omega⟩

/-- An instruction whose references have been filled in has the mnemonic that it had before,
    and its operands one by one. -/
theorem ofWords_of_fill {labels : LabelTable} {text filled mnemonic : Bytes}
    {operands : List Bytes} {i : Instruction}
    (hfill : Emission.fill labels true text = .ok filled) (hread : read filled = .ok i)
    (hwords : wordsBy isSeparator text = mnemonic :: operands) :
    Opcode.ofWord? mnemonic = some i.opcode ∧ ∃ operands',
      List.Forall₂ (fun w w' => substitute labels w = .ok w') operands operands' ∧
      ofWords (mnemonic :: operands') = .ok i := by
  have hfilled := wordsBy_substitute isSeparator_of_isPlain hfill
  rw [hwords, List.forall₂_cons_left_iff] at hfilled
  obtain ⟨mnemonic', operands', hmnemonic, hoperands, heq⟩ := hfilled
  rw [read, heq] at hread
  have hop := opcode_of_ofWords hread
  cases eq_of_mnemonic hmnemonic hop
  exact ⟨hop, operands', hoperands, hread⟩

/-- A text that starts with a dot is no instruction, whatever its references stand for. -/
theorem head?_ne_dot {labels : LabelTable} {text filled : Bytes} {i : Instruction}
    (hfill : Emission.fill labels true text = .ok filled) (hread : read filled = .ok i) :
    text.head? ≠ some '.'.toUInt8 := by
  intro hhead
  obtain ⟨rest, rfl⟩ := List.head?_eq_some_iff.mp hhead
  have hfirst : ∃ first others,
      wordsBy isSeparator ('.'.toUInt8 :: rest) = ('.'.toUInt8 :: first) :: others := by
    rw [wordsBy_eq, glyphs_cons_ascii (by decide)]
    have hdot : isSeparator (.ascii '.'.toUInt8) = false := by decide
    obtain ⟨first, others, hstep⟩ := wordStep_glyph hdot (scan isSeparator (glyphs rest))
    exact ⟨first, others, congrArg Prod.fst hstep⟩
  obtain ⟨first, others, hwords⟩ := hfirst
  obtain ⟨hop, -⟩ := ofWords_of_fill hfill hread hwords
  exact absurd (Opcode.isLetter_of_ofWord? hop List.mem_cons_self (by decide)) (by decide)

/-- **A REFERENCE AS AN OPERAND.**  An accepted instruction carries the whole address, and has
    the opcode that its mnemonic spells. -/
theorem carries_of_read {labels : LabelTable} {text filled mnemonic name : Bytes}
    {operands : List Bytes} {i : Instruction} {j : Nat}
    (hfill : Emission.fill labels true text = .ok filled) (hread : read filled = .ok i)
    (hlegal : i.validate = .ok ()) (hwords : wordsBy isSeparator text = mnemonic :: operands)
    (hname : mark ∉ name) (hj : operands[j]? = some (mark :: name)) :
    Opcode.ofWord? mnemonic = some i.opcode ∧
      ∃ a : Nat, labels.address? name = some (a : Int) ∧ i.Carries a := by
  obtain ⟨hop, operands', hoperands, hwords'⟩ := ofWords_of_fill hfill hread hwords
  obtain ⟨word, hword, hsub⟩ := getElem?_of_forall₂ hoperands hj
  refine ⟨hop, ?_⟩
  rcases operand_of_ofWords hwords' hword with ⟨r, hr⟩ | hb
  · exact absurd hr (not_register_single hname hsub)
  · obtain ⟨a, haddress, ⟨hmovi, hle, hb⟩ | ⟨hmovi, hle, hb⟩⟩ :=
      Operand.readSecond_single hname hsub hb
    · exact ⟨a, haddress, Or.inl ⟨hmovi, hle, hb⟩⟩
    · obtain ⟨hshape, hshort⟩ := regImm5_of_short hlegal hmovi hb
      rw [BitVec.toNat_ofNat] at hshort
      exact ⟨a, haddress, Or.inr ⟨hshape, by omega, hb⟩⟩

end Instruction

/-! ## Directives -/

namespace Directive

/-- The addresses that there is room for in a value of a directive. -/
def Kind.Fits (a : Nat) : Kind → Prop
  | .byte => a ≤ 255
  | .word => a ≤ 65535
  | .long => a ≤ 4294967295
  | .array => a ≤ 255
  | .asciiz => False

/-- The bytes of a directive with an address as one of its values, and with room for it. -/
def Kind.Carries (bytes : Bytes) (j a : Nat) : Kind → Prop
  | .byte => a ≤ 255 ∧ bytes.length = 1 ∧ ofBigEndian bytes = a
  | .word => a ≤ 65535 ∧ bytes.length = 2 ∧ ofBigEndian bytes = a
  | .long => a ≤ 4294967295 ∧ bytes.length = 4 ∧ ofBigEndian bytes = a
  | .array => a ≤ 255 ∧ ∃ b, bytes[j]? = some b ∧ b.toNat = a
  | .asciiz => False

/-- What a directive carries, its values have room for. -/
theorem Kind.Carries.fits {k : Kind} {bytes : Bytes} {j a : Nat} (h : k.Carries bytes j a) :
    k.Fits a := by
  cases k with
  | asciiz => exact h
  | _ => exact h.1

variable {labels : LabelTable} {line filled name bytes : Bytes} {values values' : List Bytes}
  {k : Kind} {j : Nat}

/-- References are filled in behind every keyword but that of a text. -/
theorem substitute_of_fill (htrim : Trimmed line) (hwords : line.words = k.keyword :: values)
    (hk : k ≠ .asciiz) (hfill : Emission.fill labels false line = .ok filled) :
    substitute labels line = .ok filled := by
  have hverbatim : Emission.isVerbatim false line ≠ true := by
    intro hverbatim
    have hline := List.isPrefixOf_iff_prefix.mp (htrim.isPrefixOf hwords)
    have htext := List.isPrefixOf_iff_prefix.mp hverbatim
    -- no keyword starts with another
    rcases List.prefix_or_prefix_of_prefix hline htext with hpre | hpre
    · revert hpre
      cases k <;> first | exact absurd rfl hk | decide
    · revert hpre
      cases k <;> first | exact absurd rfl hk | decide
  rwa [Emission.fill, if_neg hverbatim] at hfill

/-- A reference as the one value of a directive. -/
theorem ofBigEndian_of_readSingle {size : Nat} (hpos : 0 < size) (hle : size ≤ 8)
    (hvalues : List.Forall₂ (fun w w' => substitute labels w = .ok w') values values')
    (hread : readSingle size values' = .ok bytes) (hname : mark ∉ name)
    (hj : values[j]? = some (mark :: name)) :
    ∃ a : Nat, labels.address? name = some (a : Int) ∧ a < 2 ^ (8 * size) ∧
      bytes.length = size ∧ ofBigEndian bytes = a := by
  obtain ⟨word, hword, hsub⟩ := getElem?_of_forall₂ hvalues hj
  have hlength := length_readSingle hread
  rw [readSingle.eq_def] at hread
  split at hread
  · rename_i single
    obtain ⟨a, hnumber, rfl⟩ := map_eq_ok.mp hread
    -- there is one value only, so it is the reference
    obtain ⟨hj0, hsingle⟩ := List.getElem?_eq_some_iff.mp hword
    rw [List.length_singleton] at hj0
    obtain rfl : j = 0 := by omega
    obtain rfl : single = word := hsingle
    have hnumber : readNumber single ((8 * size : Nat) : Int) = .ok a := by
      rw [Int.natCast_mul]
      exact hnumber
    obtain ⟨haddress, hlt⟩ :=
      readNumber_single (Nat.mul_pos (by decide) hpos) (by omega) hname hsub hnumber
    refine ⟨a, haddress, hlt, hlength, ?_⟩
    rw [Nat.pow_mul] at hlt
    rw [ofBigEndian_bigEndian, Nat.mod_eq_of_lt hlt]
  · cases hread

/-- **A REFERENCE AS A VALUE.**  The bytes of a directive carry the whole address. -/
theorem carries_of_read (htrim : Trimmed line) (hwords : line.words = k.keyword :: values)
    (hk : k ≠ .asciiz) (hfill : Emission.fill labels false line = .ok filled)
    (hread : read filled = .ok bytes) (hname : mark ∉ name)
    (hj : values[j]? = some (mark :: name)) :
    ∃ a : Nat, labels.address? name = some (a : Int) ∧ k.Carries bytes j a := by
  have hsub := substitute_of_fill htrim hwords hk hfill
  obtain ⟨values', hsplit, hvalues⟩ := split_substitute (split_eq_ok.mpr hwords) hsub
  rw [read_of_split hsplit] at hread
  cases k with
  | array =>
      obtain ⟨word, hword, hsub⟩ := getElem?_of_forall₂ hvalues hj
      obtain ⟨b, hb, hvalue⟩ := getElem?_of_forall₂ (mapM_eq_ok.mp hread) hword
      obtain ⟨a, hnumber, rfl⟩ := map_eq_ok.mp hvalue
      have hnumber : readNumber word (8 : Nat) = .ok a := hnumber
      obtain ⟨haddress, hlt⟩ := readNumber_single (by decide) (by decide) hname hsub hnumber
      refine ⟨a, haddress, by omega, _, hb, ?_⟩
      exact Nat.mod_eq_of_lt hlt
  | asciiz => exact absurd rfl hk
  | _ =>
      -- one value, in as many bytes as the kind has
      obtain ⟨a, haddress, hlt, hbytes⟩ :=
        ofBigEndian_of_readSingle (by decide) (by decide) hvalues hread hname hj
      exact ⟨a, haddress, by omega, hbytes⟩

/-- A line that starts with the keyword of a directive is no instruction. -/
theorem not_instruction {i : Instruction} (hwords : line.words = k.keyword :: values)
    (hfill : Emission.fill labels true line = .ok filled) : Instruction.read filled ≠ .ok i := by
  intro hread
  have hall : k.keyword.all
      (fun b => isAscii b && !Instruction.isSeparator (.ascii b)) = true := by
    cases k <;> decide
  have hkeyword : ∀ b ∈ k.keyword,
      isAscii b = true ∧ Instruction.isSeparator (.ascii b) = false := by
    intro b hb
    simpa using List.all_eq_true.mp hall b hb
  rw [words, wordsBy_eq] at hwords
  obtain ⟨pre, run, rest, hcut, hpre, hne, -, hrest, hrun, -⟩ := glyphWords_eq_cons hwords
  -- the keyword has no comma, so it is the first word of an instruction as well
  have hascii : run = k.keyword.map .ascii := by
    rw [← glyphs_run (fun g => Glyph.isSome_code?_of_isBlank) hcut hrest, ← hrun]
    exact glyphs_ascii fun b hb => (hkeyword b hb).1
  have hfirst : wordsBy Instruction.isSeparator line =
      k.keyword :: glyphWords Instruction.isSeparator rest := by
    rw [wordsBy_eq, hcut,
      glyphWords_separators fun g hg => Instruction.isSeparator_of_isBlank (hpre g hg),
      glyphWords_append hne, hrun]
    · rw [hascii]
      intro g hg
      obtain ⟨b, hb, rfl⟩ := List.mem_map.mp hg
      exact (hkeyword b hb).2
    · exact fun g hg => Instruction.isSeparator_of_isBlank (hrest g hg)
  obtain ⟨hop, -⟩ := Instruction.ofWords_of_fill hfill hread hfirst
  have hdot : '.'.toUInt8 ∈ k.keyword := by
    cases k <;> decide
  exact absurd (Opcode.isLetter_of_ofWord? hop hdot (by decide)) (by decide)

end Directive

end TwoPass
