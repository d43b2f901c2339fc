import TwoPass.Emission
import TwoPass.Layout
import TwoPass.Proofs.Machine.Legality
import TwoPass.Proofs.Source.References

/-!
# Mnemonics — where the first pass sees `movi`, the second reads it

The first pass looks at the first word between blanks, without the commas at its end, and
compares it by folding.  The second pass separates words at commas too, fills in references,
and compares by lower-casing.  What folds to `movi` are the four letters in either case, and
these contain no comma, no reference and no letter that lower-casing treats differently.  So
a line that the first pass takes for `movi` is read as `movi` (`opcode_of_spellsMovi`).  The
converse fails, and the difference is exactly what the passes drift apart by.
-/

namespace TwoPass

open Bytes Reference

namespace Layout

/-- Whether the first pass takes a line of code for `movi`. -/
def SpellsMovi (text : Bytes) : Prop := (mnemonic text).foldAscii? = some (Bytes.ofString "movi")

instance (text : Bytes) : Decidable (SpellsMovi text) := inferInstanceAs (Decidable (_ = _))

/-- The first pass gives a line four bytes if it spells `movi`, and two otherwise. -/
theorem codeSize_eq (text : Bytes) : codeSize text = if SpellsMovi text then 4 else 2 := rfl

end Layout

/-- What a reference is written with does not separate words. -/
theorem Instruction.isSeparator_of_isPlain (b : UInt8) :
    isPlain b = true → Instruction.isSeparator (.ascii b) = false := by
  revert b
  exact forall_byte (by decide +kernel)

/-- The bytes that fold to a letter of `movi`. -/
def isMoviByte (b : UInt8) : Bool :=
  (Bytes.ofString "movi").any fun c => foldAscii? b.toNat == some c

/-- The letters of `movi` are plain, and none of them is a mark. -/
theorem isPlain_of_isMoviByte (b : UInt8) : isMoviByte b = true → isPlain b = true ∧ b ≠ mark := by
  revert b
  exact forall_byte (by decide +kernel)

/-- For these letters it does not matter in which way case is ignored. -/
theorem lowerAscii?_of_isMoviByte (b : UInt8) :
    isMoviByte b = true → lowerAscii? b.toNat = foldAscii? b.toNat := by
  revert b
  exact forall_byte (by decide +kernel)

/-- Folding reaches an ASCII letter other than `k` and `s` from ASCII only. -/
theorem lt_of_foldAscii? {code : Nat} {c : UInt8} (h : foldAscii? code = some c)
    (hc : c ∈ Bytes.ofString "movi") : code < 0x80 := by
  rw [foldAscii?] at h
  split at h
  · rename_i hcode
    rw [Bool.and_eq_true, decide_eq_true_iff, decide_eq_true_iff] at hcode
    omega
  · split at h
    · assumption
    · split at h
      · cases h
        exact absurd hc (by decide)
      · split at h
        · cases h
          exact absurd hc (by decide)
        · exact nomatch h

/-- A text that folds to `movi` consists of bytes that do. -/
theorem isMoviByte_of_foldAscii? {m : Bytes} (h : m.foldAscii? = some (Bytes.ofString "movi")) :
    ∀ b ∈ m, isMoviByte b = true := by
  intro b hb
  rw [← ofGlyphs_glyphs m] at hb
  obtain ⟨g, hg, hb⟩ := List.mem_flatMap.mp hb
  obtain ⟨c, hc, hfold⟩ := exists_of_mem_forall₂ (mapM_eq_some.mp h) hg
  obtain ⟨code, hcode, hfold⟩ := Option.bind_eq_some_iff.mp hfold
  obtain ⟨b', -, rfl, rfl⟩ := (isRead_of_mem_glyphs hg).eq_ascii hcode (lt_of_foldAscii? hfold hc)
  rw [Glyph.bytes_ascii, List.mem_singleton] at hb
  subst hb
  exact List.any_eq_true.mpr ⟨c, hc, beq_iff_eq.mpr hfold⟩

/-- A text of such bytes is lower-cased as it is folded. -/
theorem lowerAscii?_eq_foldAscii? {m : Bytes} (h : ∀ b ∈ m, isMoviByte b = true) :
    m.lowerAscii? = m.foldAscii? := by
  have hglyphs : glyphs m = m.map Glyph.ascii :=
    glyphs_ascii fun b hb => isAscii_of_isPlain b (isPlain_of_isMoviByte b (h b hb)).1
  rw [Bytes.lowerAscii?, Bytes.foldAscii?, hglyphs]
  clear hglyphs
  induction m with
  | nil => rfl
  | cons b m ih =>
      rw [List.map_cons, List.mapM_cons, List.mapM_cons,
        ih (fun c hc => h c (List.mem_cons_of_mem _ hc))]
      show (lowerAscii? b.toNat >>= _) = (foldAscii? b.toNat >>= _)
      rw [lowerAscii?_of_isMoviByte b (h b List.mem_cons_self)]

theorem Instruction.isSeparator_of_isBlank {g : Glyph} (h : g.isBlank = true) :
    Instruction.isSeparator g = true := by
  rw [Instruction.isSeparator, h, Bool.true_or]

namespace Layout

/-- The mnemonic that the first pass takes for `movi` is the first word of the second. -/
theorem wordsBy_of_spellsMovi {text : Bytes} (h : SpellsMovi text) :
    ∃ rest, wordsBy Instruction.isSeparator text = mnemonic text :: rest := by
  have hmovi := isMoviByte_of_foldAscii? h
  have hne : mnemonic text ≠ [] := by
    intro hnil
    rw [SpellsMovi, hnil] at h
    exact absurd h (by decide)
  cases hwords : words text with
  | nil => exact absurd (by rw [mnemonic, hwords]; rfl) hne
  | cons w ws =>
      have hm : mnemonic text = w.dropEndWhile (· == ','.toUInt8) := by rw [mnemonic, hwords]; rfl
      obtain ⟨commas, hw, hcommas⟩ := dropEndWhile_append (· == ','.toUInt8) w
      rw [← hm] at hw
      obtain ⟨pre, run, rest, hcut, hpre, -, -, hrest, rfl, -⟩ := glyphWords_eq_cons hwords
      -- the first word is the mnemonic and commas, and is read as such
      have hascii : ∀ b ∈ mnemonic text, isAscii b = true :=
        fun b hb => isAscii_of_isPlain b (isPlain_of_isMoviByte b (hmovi b hb)).1
      have hrun : run = (mnemonic text).map .ascii ++ commas.map .ascii := by
        rw [← glyphs_run (fun g => Glyph.isSome_code?_of_isBlank) hcut hrest, hw,
          glyphs_ascii_append hascii, glyphs_ascii]
        intro b hb
        rw [eq_of_beq (hcommas b hb)]
        decide
      refine ⟨glyphWords Instruction.isSeparator (commas.map .ascii ++ rest), ?_⟩
      rw [wordsBy_eq, hcut, hrun, List.append_assoc,
        glyphWords_separators fun g hg => Instruction.isSeparator_of_isBlank (hpre g hg),
        glyphWords_append, ofGlyphs_map_ascii]
      · exact fun he => hne (List.map_eq_nil_iff.mp he)
      · refine separator_map_ascii Instruction.isSeparator_of_isPlain ?_
        exact fun b hb => (isPlain_of_isMoviByte b (hmovi b hb)).1
      · intro g hg
        cases commas with
        | nil => exact Instruction.isSeparator_of_isBlank (hrest g hg)
        | cons b commas =>
            rw [← Option.some.inj hg, eq_of_beq (hcommas b List.mem_cons_self)]
            decide

end Layout

/-- An opcode that a word spells is the entry of the table that the word was found at. -/
theorem Opcode.exists_of_ofWord? {word : Bytes} {op : Opcode} (h : ofWord? word = some op) :
    ∃ (name : Bytes) (n : Nat), word.lowerAscii? = some name ∧
      table.findIdx? (fun i => Bytes.ofString i.mnemonic == name) = some n ∧ op = ⟨n⟩ := by
  obtain ⟨name, hname, h⟩ := Option.bind_eq_some_iff.mp h
  obtain ⟨number, hnumber, rfl⟩ := Option.map_eq_some_iff.mp h
  obtain ⟨n, hn, hcast⟩ := Option.bind_eq_some_iff.mp hnumber
  cases Option.some.inj hcast
  exact ⟨name, n, hname, hn, rfl⟩

/-- A register that a word names is the entry of the table that the word was found at. -/
theorem Register.exists_of_ofWord? {word : Bytes} {r : Register} (h : ofWord? word = some r) :
    ∃ (name : Bytes) (n : Nat), word.lowerAscii? = some name ∧
      table.findIdx? (fun i => i.addressable && Bytes.ofString i.name == name) = some n ∧
      r = ⟨n⟩ := by
  obtain ⟨name, hname, h⟩ := Option.bind_eq_some_iff.mp h
  obtain ⟨number, hnumber, rfl⟩ := Option.map_eq_some_iff.mp h
  obtain ⟨n, hn, hcast⟩ := Option.bind_eq_some_iff.mp hnumber
  cases Option.some.inj hcast
  exact ⟨name, n, hname, hn, rfl⟩

/-- A word is read as the opcode that it names. -/
theorem Opcode.read_eq_ok {word : Bytes} {op : Opcode} :
    Opcode.read word = .ok op ↔ Opcode.ofWord? word = some op := by
  rw [Opcode.read]
  cases Opcode.ofWord? word with
  | none => exact ⟨nofun, nofun⟩
  | some op' => exact ⟨fun h => congrArg some (Except.ok.inj h), fun h => by cases h; rfl⟩

namespace Instruction

/-- The opcode of an instruction is what its first word spells. -/
theorem opcode_of_ofWords {op : Bytes} {rest : List Bytes} {i : Instruction}
    (h : ofWords (op :: rest) = .ok i) : Opcode.ofWord? op = some i.opcode := by
  rw [← Opcode.read_eq_ok]
  match rest with
  | [] =>
      obtain ⟨opcode, hop, h⟩ := bind_eq_ok.mp h
      cases pure_eq_ok.mp h
      exact hop
  | [_] =>
      obtain ⟨opcode, hop, h⟩ := bind_eq_ok.mp h
      obtain ⟨a, -, h⟩ := bind_eq_ok.mp h
      cases pure_eq_ok.mp h
      exact hop
  | [_, _] =>
      obtain ⟨opcode, hop, h⟩ := bind_eq_ok.mp h
      obtain ⟨a, -, h⟩ := bind_eq_ok.mp h
      obtain ⟨b, -, h⟩ := bind_eq_ok.mp h
      cases pure_eq_ok.mp h
      exact hop
  | _ :: _ :: _ :: _ => exact nomatch h

end Instruction

/-- **WHERE THE FIRST PASS SEES `movi`.**  The instruction that is read is a `movi`. -/
theorem opcode_of_spellsMovi {labels : LabelTable} {text filled : Bytes} {i : Instruction}
    (h : Layout.SpellsMovi text) (hfill : Emission.fill labels true text = .ok filled)
    (hread : Instruction.read filled = .ok i) : i.opcode = .movi := by
  have hmovi := isMoviByte_of_foldAscii? h
  have hmark : mark ∉ Layout.mnemonic text :=
    fun hmem => (isPlain_of_isMoviByte _ (hmovi _ hmem)).2 rfl
  obtain ⟨rest, hwords⟩ := Layout.wordsBy_of_spellsMovi h
  have hfilled := wordsBy_substitute Instruction.isSeparator_of_isPlain hfill
  rw [Instruction.read] at hread
  rw [hwords, List.forall₂_cons_left_iff] at hfilled
  obtain ⟨m, rest', hm, -, heq⟩ := hfilled
  rw [substitute_of_not_mem hmark, Except.ok.injEq] at hm
  rw [heq, ← hm] at hread
  have hop := Instruction.opcode_of_ofWords hread
  rw [Opcode.ofWord?, lowerAscii?_eq_foldAscii? hmovi, h] at hop
  exact (Option.some.inj hop).symm

end TwoPass
