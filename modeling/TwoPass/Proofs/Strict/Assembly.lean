import TwoPass.Assembler
import TwoPass.Proofs.Passes.Emissions
import TwoPass.Proofs.Strict.Reading

/-!
# Strict assembly — neither pass leaves the domain of an operation

The two passes, the image and the listing, with every index, slice, look-up and choice of a field
written as an operation that is stuck outside its domain.  One of them is not guarded where it
stands: in the code section, the first pass takes the first word of a line without a look at
how many there are.  The word exists because of what was done to the line before: lines are
trimmed, and so is what stands behind a label; an empty rest is no text; and trimming and
cutting into words agree on what a blank is, whatever the bytes are (`exists_first_word`).

With that, a line of the first pass is never stuck (`layoutStep_eq`), nor is one of the second
(`assemblyStep_eq`), and so no run of either is (`assemble_eq`).
-/

namespace TwoPass

open Bytes

/-- Trimmed text with something in it has a first word. -/
theorem Bytes.Trimmed.exists_words {s : Bytes} (h : Trimmed s) (hne : s ≠ []) :
    ∃ w ws, words s = w :: ws := by
  have hread := ofGlyphs_glyphs s
  have hhead := h.head?
  rw [words, wordsBy_eq]
  cases hg : glyphs s with
  | nil =>
      rw [hg] at hread
      exact absurd hread.symm hne
  | cons g gs =>
      rw [hg] at hhead
      obtain ⟨rest, ws, hstep⟩ := wordStep_glyph (hhead g rfl) (scan Glyph.isBlank gs)
      refine ⟨g.bytes ++ rest, ws, ?_⟩
      show (wordStep Glyph.isBlank g (scan Glyph.isBlank gs)).1 = _
      rw [hstep]

/-- The text behind the label of a trimmed line, if it is not a marker, has a first word. -/
theorem Statement.exists_first_word {line text : Bytes} {st : Statement} (htrim : Trimmed line)
    (hread : Statement.read line = .ok st) (hbody : st.body = .text text) :
    ∃ w ws, words text = w :: ws := by
  have htext : (Label.split line).2 = text := Statement.text_of_read hread hbody
  have hsplit : Trimmed text := by
    rw [← htext]
    exact Label.trimmed_split htrim
  refine hsplit.exists_words fun hempty => ?_
  rw [Statement.eq_of_read hread, htext, hempty] at hbody
  cases hbody

namespace Strict

/-! ## The first pass -/

/-- The size that a line of code is given, by its first word. -/
def codeSize (text : Bytes) : Strict Nat := do
  let word ← item text.words 0
  let mnemonic := word.dropEndWhile (· == ','.toUInt8)
  pure (if mnemonic.foldAscii? = some (Bytes.ofString "movi") then 4 else 2)

/-- Moves past the body of a line. -/
def advance (l : Layout) : Body → Strict Layout
  | .nothing => pure l
  | .marker s => do
    let inCode ← total (Section.enter l.inCode s)
    pure { l with inCode }
  | .text text =>
    if l.inCode then do
      let size ← codeSize text
      pure { l with codeNext := l.codeNext + size }
    else do
      let size ← directiveSize text
      pure { l with dataNext := l.dataNext + size }

/-- One line of the first pass. -/
def layoutStep (l : Layout) (text : Bytes) : Strict Layout := do
  let st ← statement text
  advance (l.define st.label) st.body

/-- The label table of a source. -/
def resolveLabels (c : Config) (lines : List SourceLine) : Strict LabelTable := do
  let l ← lines.foldlM
    (fun l line => ExceptT.adapt (.atLine line.number line.text) (layoutStep l line.text))
    (Layout.start c)
  pure l.labels

/-- A line that has a first word has a size. -/
theorem codeSize_eq {text w : Bytes} {ws : List Bytes} (h : words text = w :: ws) :
    codeSize text = total (.ok (Layout.codeSize text)) := by
  have hword : item text.words 0 = total (.ok w) := item_eq (by rw [h]; rfl)
  rw [codeSize, hword, total_ok_bind, Layout.codeSize, Layout.mnemonic, h]
  rfl

theorem advance_eq {body : Body} (l : Layout)
    (h : ∀ text, body = .text text → ∃ w ws, words text = w :: ws) :
    advance l body = total (l.advance body) := by
  cases body with
  | nothing => rfl
  | marker s => exact total_bind fun _ _ => rfl
  | text text =>
      obtain ⟨w, ws, hwords⟩ := h text rfl
      rw [advance, Layout.advance]
      split
      · rw [codeSize_eq hwords]
        rfl
      · rw [directiveSize_eq]
        exact total_bind fun _ _ => rfl

/-- A trimmed line of the first pass is never stuck. -/
theorem layoutStep_eq {text : Bytes} (htrim : Trimmed text) (l : Layout) :
    layoutStep l text = total (l.step text) := by
  rw [layoutStep, statement_eq]
  refine total_bind fun st hread => ?_
  exact advance_eq _ fun _ hbody => Statement.exists_first_word htrim hread hbody

/-- The first pass looks only at words that are there, over all lines. -/
theorem resolveLabels_eq (c : Config) {lines : List SourceLine}
    (htrim : ∀ line ∈ lines, Trimmed line.text) :
    resolveLabels c lines = total (Layout.resolve c lines) := by
  have hrun : ∀ l : Layout, ∀ line ∈ lines,
      ExceptT.adapt (.atLine line.number line.text) (layoutStep l line.text) =
        total ((l.step line.text).mapError (.atLine line.number line.text)) := by
    intro l line hline
    rw [layoutStep_eq (htrim line hline), adapt_total]
  rw [resolveLabels, foldlM_total hrun]
  exact map_total _ _

/-! ## The second pass -/

/-- The statement with the addresses of its references filled in. -/
def fill (labels : LabelTable) (inCode : Bool) (text : Bytes) : Strict Bytes :=
  if Emission.isVerbatim inCode text then pure text else substitute labels text

/-- A legal instruction. -/
def readCode (text : Bytes) : Strict Instruction := do
  let i ← instruction (text.wordsBy Instruction.isSeparator)
  total i.validate
  pure i

/-- What the text of a statement emits. -/
def emission (labels : LabelTable) (inCode : Bool) (text : Bytes) : Strict Emission := do
  let text ← fill labels inCode text
  if inCode then do
    let i ← readCode text
    pure (.code i)
  else do
    let bytes ← directive text
    pure (.data bytes)

/-- What a line emits, if anything, and whether the next line is in the code section. -/
def emissionOfLine (labels : LabelTable) (inCode : Bool) (line : Bytes) :
    Strict (Bool × Option Emission) := do
  let st ← statement line
  match st.body with
  | .nothing => pure (inCode, none)
  | .marker s => do
    let entered ← total (Section.enter inCode s)
    pure (entered, none)
  | .text text => do
    let e ← emission labels inCode text
    pure (inCode, some e)

/-- One line of the second pass. -/
def assemblyStep (labels : LabelTable) (s : Assembly) (line : SourceLine) : Strict Assembly := do
  let (inCode, emission) ← emissionOfLine labels s.inCode line.text
  let s := { s with inCode }
  match emission with
  | none => pure s
  | some e => pure (s.add line e)

/-- The program of a source whose labels are known. -/
def program (c : Config) (labels : LabelTable) (lines : List SourceLine) : Strict Program := do
  let s ← lines.foldlM
    (fun s line => ExceptT.adapt (.atLine line.number line.text) (assemblyStep labels s line))
    (Assembly.start c)
  pure ⟨s.items.reverse, labels⟩

/-- The program that a list of lines assembles to. -/
def assemble (c : Config) (texts : List Bytes) : Strict Program := do
  let lines := SourceLine.ofTexts texts
  let labels ← resolveLabels c lines
  program c labels lines

theorem fill_eq (labels : LabelTable) (inCode : Bool) (text : Bytes) :
    fill labels inCode text = total (Emission.fill labels inCode text) := by
  rw [fill, Emission.fill]
  split
  · rfl
  · exact substitute_eq labels text

theorem readCode_eq (text : Bytes) : readCode text = total (Emission.readCode text) := by
  rw [readCode, instruction_eq]
  refine total_bind fun i _ => ?_
  exact total_bind fun _ _ => rfl

theorem emission_eq (labels : LabelTable) (inCode : Bool) (text : Bytes) :
    emission labels inCode text = total (Emission.ofText labels inCode text) := by
  rw [emission, fill_eq, Emission.ofText]
  refine total_bind fun filled _ => ?_
  cases inCode with
  | false =>
      show (directive filled >>= _) = _
      rw [directive_eq]
      exact total_bind fun _ _ => rfl
  | true =>
      show (readCode filled >>= _) = _
      rw [readCode_eq]
      exact total_bind fun _ _ => rfl

theorem emissionOfLine_eq (labels : LabelTable) (inCode : Bool) (line : Bytes) :
    emissionOfLine labels inCode line = total (Emission.ofLine labels inCode line) := by
  rw [emissionOfLine, statement_eq, Emission.ofLine]
  refine total_bind fun st _ => ?_
  cases st.body with
  | nothing => rfl
  | marker s => exact total_bind fun _ _ => rfl
  | text text =>
      dsimp only
      rw [emission_eq]
      exact total_bind fun _ _ => rfl

/-- A line of the second pass is never stuck. -/
theorem assemblyStep_eq (labels : LabelTable) (s : Assembly) (line : SourceLine) :
    assemblyStep labels s line = total (s.step labels line) := by
  rw [assemblyStep, emissionOfLine_eq, Assembly.step]
  refine total_bind fun emitted _ => ?_
  obtain ⟨inCode, _ | e⟩ := emitted
  · rfl
  · rfl

/-- The second pass looks only at items that are there, over all lines. -/
theorem program_eq (c : Config) (labels : LabelTable) (lines : List SourceLine) :
    program c labels lines = total (Assembly.program c labels lines) := by
  have hrun : ∀ s : Assembly, ∀ line ∈ lines,
      ExceptT.adapt (.atLine line.number line.text) (assemblyStep labels s line) =
        total ((s.step labels line).mapError (.atLine line.number line.text)) := by
    intro s line _
    rw [assemblyStep_eq, adapt_total]
  rw [program, foldlM_total hrun]
  exact total_bind fun _ _ => rfl

theorem assemble_eq (c : Config) (texts : List Bytes) :
    assemble c texts = total (TwoPass.assemble c texts) := by
  have htrim : ∀ line ∈ SourceLine.ofTexts texts, Trimmed line.text := by
    intro line hline
    exact SourceLine.trimmed_of_mem hline
  rw [assemble, resolveLabels_eq c htrim]
  exact total_bind fun labels _ => program_eq c labels _

/-! ## Image and listing -/

/-- The numeric contribution of a register to a word, from the table of registers. -/
def registerCode (r : Register) : Strict (BitVec 16) := do
  let info ← lookup Register.table r.number
  match info with
  | none => throw (.registerUse r .noEncoding)
  | some info =>
    if info.encodable then pure (info.family.setWidth 16) else throw (.registerUse r .noEncoding)

/-- The numeric contribution of an operand to a word. -/
def operandCode (o : Operand) : Strict (BitVec 16) :=
  if o.kind = .register then registerCode o.register
  else if o.kind = .short then pure (o.value &&& 0xff)
  else pure o.value

def encode (i : Instruction) : Strict Word := do
  let a ← operandCode i.a
  let b ← operandCode i.b
  pure (Instruction.pack i.header a b i.isLong)

/-- The bytes of an item: of the field that is there. -/
def bytes (i : Item) : Strict Bytes :=
  if i.data.isSome then within i.data
  else if i.instruction.isSome then do
    let instruction ← within i.instruction
    let word ← encode instruction
    pure word.bytes
  else pure []

/-- The bytes of an item, with a fault located at the item's line. -/
def locatedBytes (i : Item) : Strict Bytes := ExceptT.adapt (.atLine i.number i.line) (bytes i)

/-- The bytes of a list of items, with the code marker in front of the first instruction. -/
def imageOf (items : List Item) : Strict Bytes := do
  let marked := items.dropWhile (·.instruction.isNone)
  let before ← (items.takeWhile (·.instruction.isNone)).mapM locatedBytes
  let behind ← marked.mapM locatedBytes
  pure (before.flatten ++ (if marked = [] then [] else Program.codeMarker) ++ behind.flatten)

/-- The image of a program. -/
def image (p : Program) : Strict Bytes := do
  let bytes ← imageOf p.all.toList
  pure (Program.dataMarker ++ bytes)

/-- The lines of a listing up to the first item without bytes, and that item's fault. -/
def listing : List Item → Option (List Bytes × Option Fault)
  | [] => some ([], none)
  | i :: rest => do
    match ← (bytes i).run with
    | .error f => some ([], some f)
    | .ok bytes => do
      let (lines, fault) ← listing rest
      some (Program.listingLine i bytes :: lines, fault)

theorem registerCode_eq (r : Register) : registerCode r = total r.code := by
  rw [registerCode, lookup_eq, total_ok_bind, Register.code, Register.family?, Register.info?]
  cases Enumeration.lookup? Register.table r.number with
  | none => rfl
  | some info =>
      dsimp only [Option.bind_some]
      split <;> rfl

theorem operandCode_eq (o : Operand) : operandCode o = total o.code := by
  rw [operandCode, Operand.code]
  split
  · exact registerCode_eq o.register
  · split <;> rfl

theorem encode_eq (i : Instruction) : encode i = total i.encode := by
  rw [encode, operandCode_eq, operandCode_eq]
  refine total_bind fun a _ => ?_
  exact total_bind fun b _ => rfl

theorem bytes_eq (i : Item) : bytes i = total i.bytes := by
  rw [bytes, Item.bytes]
  cases i.data with
  | some data => rfl
  | none =>
      cases i.instruction with
      | none => rfl
      | some instruction =>
          show (encode instruction >>= _) = _
          rw [encode_eq]
          exact map_total _ _

theorem locatedBytes_eq (i : Item) : locatedBytes i = total (Program.locatedBytes i) := by
  rw [locatedBytes, bytes_eq, adapt_total, Program.locatedBytes]

theorem imageOf_eq (items : List Item) : imageOf items = total (Program.imageOf items) := by
  have hbytes (part : List Item) :
      part.mapM locatedBytes = total (part.mapM Program.locatedBytes) :=
    mapM_total fun i _ => locatedBytes_eq i
  rw [imageOf, hbytes, hbytes]
  refine total_bind fun before _ => ?_
  exact total_bind fun behind _ => rfl

theorem image_eq (p : Program) : image p = total p.image := by
  rw [image, imageOf_eq]
  exact total_bind fun _ _ => rfl

/-- The listing ends with a fault or with the last item, and never anywhere else. -/
theorem listing_eq (items : List Item) : listing items = some (Program.listingOf items) := by
  induction items with
  | nil => rfl
  | cons i rest ih =>
      rw [listing, bytes_eq, ih, Program.listingOf]
      cases i.bytes with
      | error f => rfl
      | ok bytes => rfl

/-- **NO OPERATION IS TAKEN OUTSIDE ITS DOMAIN.**  Whatever the configuration and the bytes of the
    lines are, the strict assembler comes to its end, with the program or the fault of the
    assembler itself: in the code section there is a first word, between two quotes there is a
    slice, behind a mark there is a name, and no first operand is other than a register.  The
    strict image and the strict listing of a program come to theirs, and whatever a register or an
    opcode is, nothing is read outside the table of its kind. -/
theorem assembly_never_stuck (c : Config) (texts : List Bytes) :
    (assemble c texts).run = some (TwoPass.assemble c texts) ∧
    (∀ p : Program, (image p).run = some p.image ∧
      listing p.all.toList = some (Program.listingOf p.all.toList)) ∧
    (∀ r : Register, (lookup Register.table r.number).run = some (.ok r.info?)) ∧
    ∀ op : Opcode, (lookup Opcode.table op.number).run = some (.ok op.info?) := by
  refine ⟨?_, fun p => ⟨?_, listing_eq _⟩, fun r => ?_, fun op => ?_⟩
  · rw [assemble_eq]
    rfl
  · rw [image_eq]
    rfl
  · rw [lookup_eq]
    rfl
  · rw [lookup_eq]
    rfl

/-- On a line that was not trimmed, the first pass would be stuck. -/
example : (codeSize (Bytes.ofString " ")).run = none := rfl

/-- So would an instruction whose first operand is a number. -/
example : (within (Instruction.make? .movi (.large 5) .none)).run = none := rfl

end Strict

end TwoPass
