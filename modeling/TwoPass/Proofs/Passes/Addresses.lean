import TwoPass.Proofs.Passes.Declarations
import TwoPass.Proofs.Source.Operands

/-!
# Addresses — what references come to in an assembled source

The second pass fills in what the first has found out.  An operand or a value that is a reference
is never a marker, so its line has an item of its own (`exists_item`); the section that the line
stands in says whether this item is an instruction or data.  Either way the item carries the
address of the name, the whole of it, and where there is no room for it nothing is assembled.
-/

namespace TwoPass

open Bytes Reference

/-! ## Lines that emit something -/

/-- All texts that mark the start of a section. -/
def Section.markers : List Bytes := [".data", ".data:", ".code", ".code:"].map Bytes.ofString

/-- A text that marks a section is one of the markers. -/
theorem Section.mem_markers {text : Bytes} {m : Section} (h : Section.ofMarker? text = some m) :
    text ∈ Section.markers := by
  rw [Section.ofMarker?] at h
  split at h
  · rename_i hdata
    rcases eq_of_dropEnding hdata with rfl | rfl <;> decide
  · split at h
    · rename_i hcode
      rcases eq_of_dropEnding hcode with rfl | rfl <;> decide
    · cases h

/-- A statement with a byte that stands in no marker is none. -/
theorem Body.ofText_of_mem {rest : Bytes} {b : UInt8}
    (hmarkers : ∀ marker ∈ Section.markers, b ∉ marker) (h : b ∈ rest) :
    Body.ofText rest = .text rest := by
  have hnone : Section.ofMarker? rest = none := by
    cases hm : Section.ofMarker? rest with
    | none => rfl
    | some m => exact absurd h (hmarkers rest (Section.mem_markers hm))
  rw [ofText, if_neg (List.ne_nil_of_mem h), hnone]

/-- A statement of two words or more is no marker. -/
theorem Body.ofText_of_words {separator : Glyph → Bool} {rest first word : Bytes}
    {others : List Bytes} {j : Nat}
    (hmarkers : ∀ m ∈ Section.markers, (wordsBy separator m).length = 1)
    (hwords : wordsBy separator rest = first :: others) (hj : others[j]? = some word) :
    Body.ofText rest = .text rest := by
  rw [Body.ofText]
  split
  · rename_i hnil
    rw [hnil, wordsBy_eq, glyphs_nil, glyphWords_nil] at hwords
    cases hwords
  · split
    · rename_i m hm
      have hone := hmarkers rest (Section.mem_markers hm)
      rw [hwords, List.length_cons, Nat.add_eq_right, List.length_eq_zero_iff] at hone
      rw [hone, List.getElem?_nil] at hj
      cases hj
    · rfl

/-- What an item has been read from, in the section of its line. -/
inductive Item.ReadFrom (labels : LabelTable) (text : Bytes) (i : Item) : Section → Prop
  | data {filled bytes : Bytes} (hfill : Emission.fill labels false text = .ok filled)
      (hread : Directive.read filled = .ok bytes) (hdata : i.data = some bytes) :
      ReadFrom labels text i .data
  | code {filled : Bytes} {instruction : Instruction}
      (hfill : Emission.fill labels true text = .ok filled)
      (hread : Instruction.read filled = .ok instruction)
      (hlegal : instruction.validate = .ok ()) (hcode : i.instruction = some instruction) :
      ReadFrom labels text i .code

/-- **EVERY STATEMENT HAS ITS ITEM.**  A line of an assembled source that is no marker and not
    empty has an item with its number, read in the section that the line stands in. -/
theorem exists_item {c : Config} {texts : List Bytes} {p : Program} {k : Nat} {text : Bytes}
    (h : assemble c texts = .ok p) (htext : texts[k]? = some text)
    (hbody : Body.ofText (Source.statement text) = .text (Source.statement text)) :
    ∃ i ∈ p.items, i.number = k + 1 ∧
      i.ReadFrom p.labels (Source.statement text) (Source.sectionBehind (texts.take k)) := by
  have hne : text.trim ≠ [] := by
    intro hnil
    rw [Source.statement, hnil, Label.split_nil] at hbody
    exact nomatch hbody
  obtain ⟨l, l', s, s', hl, -, hs, hs', hp⟩ := runs_of_assemble h k
  have hsync := (Synchronised.start c).run (fun line => SourceLine.trimmed_of_mem) hl hs
  have hspace : (if s.inCode then Section.code else .data) =
      Source.sectionBehind (texts.take k) := by
    rw [← hsync.inCode, ← l.space_here_eq]
    exact (Layout.arrived_of_run hl).space
  rw [SourceLine.linesBehind_eq_cons htext hne] at hs'
  obtain ⟨t, hstep, hrest⟩ := foldlM_cons_eq_ok.mp hs'
  obtain ⟨st, hst, hmoves⟩ := Assembly.moves_of_step (mapError_eq_ok.mp hstep)
  -- the rest of the source puts its own items behind those that are there
  have hkept : ∀ i ∈ t.items, i ∈ p.items := by
    obtain ⟨ds, cs, hemits⟩ := Assembly.emits_of_run hrest
    intro i hi
    rw [hp, List.mem_reverse, hemits.items]
    exact List.mem_append_right _ hi
  have hst' : st.body = .text (Source.statement text) := by
    rw [Statement.eq_of_read hst]
    exact hbody
  rw [hst'] at hmoves
  cases hmoves with
  | data hin hfill hread =>
      rw [hin] at hspace
      refine ⟨_, hkept _ List.mem_cons_self, rfl, ?_⟩
      rw [← hspace]
      exact .data hfill hread rfl
  | code hin hfill hread hlegal =>
      rw [hin] at hspace
      refine ⟨_, hkept _ List.mem_cons_self, rfl, ?_⟩
      rw [← hspace]
      exact .code hfill hread hlegal rfl

/-! ## References -/

variable {c : Config} {texts : List Bytes} {p : Program} {k j : Nat} {text name : Bytes}

/-- A reference among the operands of an instruction. -/
theorem exists_carries_operand {mnemonic : Bytes} {operands : List Bytes}
    (h : assemble c texts = .ok p) (htext : texts[k]? = some text)
    (hspace : Source.sectionBehind (texts.take k) = .code)
    (hwords : wordsBy Instruction.isSeparator (Source.statement text) = mnemonic :: operands)
    (hname : mark ∉ name) (hj : operands[j]? = some (mark :: name)) :
    ∃ (i : Item) (instruction : Instruction) (a : Nat), i ∈ p.items ∧ i.number = k + 1 ∧
      i.instruction = some instruction ∧ Opcode.ofWord? mnemonic = some instruction.opcode ∧
      p.labels.address? name = some (a : Int) ∧ instruction.Carries a := by
  have hbody := Body.ofText_of_words (by decide) hwords hj
  obtain ⟨i, hi, hnumber, hitem⟩ := exists_item h htext hbody
  rw [hspace] at hitem
  cases hitem with
  | code hfill hread hlegal hcode =>
      obtain ⟨hop, a, haddress, hcarries⟩ :=
        Instruction.carries_of_read hfill hread hlegal hwords hname hj
      exact ⟨i, _, a, hi, hnumber, hcode, hop, haddress, hcarries⟩

/-- A reference among the values of a directive. -/
theorem exists_carries_value {kind : Directive.Kind} {values : List Bytes}
    (h : assemble c texts = .ok p) (htext : texts[k]? = some text)
    (hwords : (Source.statement text).words = kind.keyword :: values) (hkind : kind ≠ .asciiz)
    (hname : mark ∉ name) (hj : values[j]? = some (mark :: name)) :
    ∃ (i : Item) (bytes : Bytes) (a : Nat), i ∈ p.items ∧ i.number = k + 1 ∧
      i.data = some bytes ∧ p.labels.address? name = some (a : Int) ∧
      kind.Carries bytes j a := by
  have hbody := Body.ofText_of_words (by decide) hwords hj
  have htrim : Trimmed (Source.statement text) := Label.trimmed_split (trimmed_trim text)
  obtain ⟨i, hi, hnumber, hitem⟩ := exists_item h htext hbody
  generalize Source.sectionBehind (texts.take k) = space at hitem
  cases hitem with
  | data hfill hread hdata =>
      obtain ⟨a, haddress, hcarries⟩ :=
        Directive.carries_of_read htrim hwords hkind hfill hread hname hj
      exact ⟨i, _, a, hi, hnumber, hdata, haddress, hcarries⟩
  | code hfill hread hlegal hcode =>
      exact absurd hread (Directive.not_instruction hwords hfill)

/-- A source is assembled with the labels that the first pass has found. -/
theorem labels_of_assemble {labels : LabelTable} (h : assemble c texts = .ok p)
    (hresolve : Layout.resolve c (SourceLine.ofTexts texts) = .ok labels) : p.labels = labels := by
  obtain ⟨l, s, hlayout, -, rfl⟩ := assemble_eq_ok.mp h
  rw [Layout.resolve, hlayout] at hresolve
  exact Except.ok.inj hresolve

/-- **REFERENCES ARE WHOLE.**  Take any line of a source and a reference on it, a mark and a name
    without a further mark.  As an operand of an instruction of an assembled source, it stands for
    the address of its name, and the instruction carries this very address; as a value of a
    directive, the bytes of the directive do.  If the name has no address that there is room for,
    the source is refused. -/
theorem references_whole (c : Config) (texts : List Bytes) (k j : Nat) (text name : Bytes)
    (htext : texts[k]? = some text) (hname : mark ∉ name) :
    (∀ (mnemonic : Bytes) (operands : List Bytes),
      Source.sectionBehind (texts.take k) = .code →
      wordsBy Instruction.isSeparator (Source.statement text) = mnemonic :: operands →
      operands[j]? = some (mark :: name) →
      (∀ p, assemble c texts = .ok p →
        ∃ (i : Item) (instruction : Instruction) (a : Nat), i ∈ p.items ∧ i.number = k + 1 ∧
          i.instruction = some instruction ∧ Opcode.ofWord? mnemonic = some instruction.opcode ∧
          p.labels.address? name = some (a : Int) ∧ instruction.Carries a) ∧
      (∀ labels, Layout.resolve c (SourceLine.ofTexts texts) = .ok labels →
        (∀ (op : Opcode) (a : Nat), Opcode.ofWord? mnemonic = some op →
          labels.address? name = some (a : Int) → ¬ op.Fits a) →
        ∃ f, assemble c texts = .error f)) ∧
    (∀ (kind : Directive.Kind) (values : List Bytes),
      (Source.statement text).words = kind.keyword :: values → kind ≠ .asciiz →
      values[j]? = some (mark :: name) →
      (∀ p, assemble c texts = .ok p →
        ∃ (i : Item) (bytes : Bytes) (a : Nat), i ∈ p.items ∧ i.number = k + 1 ∧
          i.data = some bytes ∧ p.labels.address? name = some (a : Int) ∧
          kind.Carries bytes j a) ∧
      (∀ labels, Layout.resolve c (SourceLine.ofTexts texts) = .ok labels →
        (∀ a : Nat, labels.address? name = some (a : Int) → ¬ kind.Fits a) →
        ∃ f, assemble c texts = .error f)) := by
  constructor
  · intro mnemonic operands hspace hwords hj
    refine ⟨fun p h => exists_carries_operand h htext hspace hwords hname hj, ?_⟩
    intro labels hresolve hroom
    refine exists_error_of_ne_ok fun p h => ?_
    obtain ⟨i, instruction, a, -, -, -, hop, haddress, hcarries⟩ :=
      exists_carries_operand h htext hspace hwords hname hj
    rw [labels_of_assemble h hresolve] at haddress
    exact hroom instruction.opcode a hop haddress hcarries.fits
  · intro kind values hwords hkind hj
    refine ⟨fun p h => exists_carries_value h htext hwords hkind hname hj, ?_⟩
    intro labels hresolve hroom
    refine exists_error_of_ne_ok fun p h => ?_
    obtain ⟨i, bytes, a, -, -, -, haddress, hcarries⟩ :=
      exists_carries_value h htext hwords hkind hname hj
    rw [labels_of_assemble h hresolve] at haddress
    exact hroom a haddress hcarries.fits

/-- A source with references to labels of its own and of the configuration. -/
def pointerSource : List Bytes :=
  ["msg: .array 1 @port", ".word @msg", ".code", "movi ax,@msg", "out ax,@port"].map Bytes.ofString

/-- What it assembles to. -/
def pointerProgram : Program where
  items :=
    [⟨1, Bytes.ofString "msg: .array 1 @port", 0x100, some [1, 0x10], none⟩,
      ⟨2, Bytes.ofString ".word @msg", 0x102, some [1, 0], none⟩,
      ⟨4, Bytes.ofString "movi ax,@msg", 0x200, none,
        some (.derive .movi (.ofRegister ⟨1⟩) (.large 0x100))⟩,
      ⟨5, Bytes.ofString "out ax,@port", 0x204, none,
        some (.derive ⟨18⟩ (.ofRegister ⟨1⟩) (.short 0x10))⟩]
  labels :=
    ⟨[⟨Bytes.ofString "msg", ⟨0x100, .data⟩⟩, ⟨Bytes.ofString "b", ⟨7, .absolute⟩⟩,
      ⟨Bytes.ofString "port", ⟨0x10, .absolute⟩⟩]⟩

/-- A source with an address that is too large for its instruction. -/
def crampedSource : List Bytes := ["msg: .byte 1", ".code", "out ax,@msg"].map Bytes.ofString

theorem references_whole_pointerSource :
    assemble portConfig pointerSource = .ok pointerProgram ∧
    (∃ (i : Item) (instruction : Instruction), i ∈ pointerProgram.items ∧ i.number = 4 ∧
      i.instruction = some instruction ∧ instruction.Carries 0x100) ∧
    (∃ (i : Item) (bytes : Bytes), i ∈ pointerProgram.items ∧ i.number = 1 ∧
      i.data = some bytes ∧ Directive.Kind.array.Carries bytes 1 0x10) ∧
    ∃ f, assemble portConfig crampedSource = .error f := by
  have hassemble : assemble portConfig pointerSource = .ok pointerProgram := by decide +kernel
  refine ⟨hassemble, ?_, ?_, ?_⟩
  · obtain ⟨hoperand, -⟩ := references_whole portConfig pointerSource 3 1
      (Bytes.ofString "movi ax,@msg") (Bytes.ofString "msg") rfl (by decide)
    obtain ⟨i, instruction, a, hi, hnumber, hcode, -, haddress, hcarries⟩ :=
      (hoperand (Bytes.ofString "movi") (["ax", "@msg"].map Bytes.ofString) rfl rfl rfl).1
        pointerProgram hassemble
    obtain rfl : 0x100 = a := Int.ofNat.inj (Option.some.inj haddress)
    exact ⟨i, instruction, hi, hnumber, hcode, hcarries⟩
  · obtain ⟨-, hvalue⟩ := references_whole portConfig pointerSource 0 1
      (Bytes.ofString "msg: .array 1 @port") (Bytes.ofString "port") rfl (by decide)
    obtain ⟨i, bytes, a, hi, hnumber, hdata, haddress, hcarries⟩ :=
      (hvalue .array (["1", "@port"].map Bytes.ofString) rfl (by decide) rfl).1
        pointerProgram hassemble
    obtain rfl : 0x10 = a := Int.ofNat.inj (Option.some.inj haddress)
    exact ⟨i, bytes, hi, hnumber, hdata, hcarries⟩
  · obtain ⟨hoperand, -⟩ := references_whole portConfig crampedSource 2 1
      (Bytes.ofString "out ax,@msg") (Bytes.ofString "msg") rfl (by decide)
    refine (hoperand (Bytes.ofString "out") (["ax", "@msg"].map Bytes.ofString) rfl rfl rfl).2
      _ rfl ?_
    intro op a hop haddress hfits
    obtain rfl : 0x100 = a := Int.ofNat.inj (Option.some.inj haddress)
    obtain rfl : ⟨18⟩ = op := Option.some.inj hop
    rcases hfits with ⟨hmovi, -⟩ | ⟨-, hle⟩
    · exact absurd hmovi (by decide)
    · exact absurd hle (by decide)

end TwoPass
