import TwoPass.Proofs.Passes.Addresses
import TwoPass.Proofs.Program.Image
import TwoPass.Proofs.Source.Names

/-!
# Renaming — a source under other names

A line is renamed in its label and in its references, byte for byte as it stands otherwise
(`Source.rename`).  Renaming a line commutes with trimming it (`Source.trim_rename`) and with
cutting off its label (`Source.split_rename`), so a source that is renamed has the same lines
with the same statements on them.  Each pass then takes the same step on the renamed line, from
the renamed state (`Layout.step_rename`, `Assembly.step_rename`): sizes, sections, addresses and
emissions are the same, and nothing but names is different.
-/

namespace TwoPass

open Bytes

/-! ## Lines -/

/-- No part of a name is a blank. -/
theorem Label.isSolid_of_isIdentifier {name : Bytes} (h : isIdentifier name = true) :
    IsSolid name := by
  refine Reference.isSolid_of_isPlain ?_ fun b hb =>
    Reference.isPlain_of_isWord (isWord_of_isIdentifier h b hb)
  rintro rfl
  cases h

namespace Source

variable (r : Label.Name → Label.Name)

/-- The references of a text under other names, unless the statement in it is `.asciiz`. -/
def renameReferences (statement text : Bytes) : Bytes :=
  if Directive.Kind.asciiz.keyword.isPrefixOf statement then text else Reference.rename r text

/-- A line with its label and its references under other names. -/
def rename (text : Bytes) : Bytes :=
  match label? text with
  | none => renameReferences r (statement text) text
  | some name =>
    text.indent ++ (Label.rename r name ++
      renameReferences r (statement text) (text.trimStart.drop name.length))

variable {r}

theorem renameReferences_colon (statement text : Bytes) :
    renameReferences r statement (':'.toUInt8 :: text) =
      ':'.toUInt8 :: renameReferences r statement text := by
  rw [renameReferences, renameReferences]
  split
  · rfl
  · exact Reference.rename_cons r (by decide) text

/-- Blanks around a text are no references. -/
theorem trim_renameReferences (statement text : Bytes) :
    (renameReferences r statement text).trim = renameReferences r statement text.trim := by
  rw [renameReferences, renameReferences]
  split
  · rfl
  · exact Reference.trim_rename r text

theorem trimEnd_renameReferences (statement text : Bytes) :
    (renameReferences r statement text).trimEnd = renameReferences r statement text.trimEnd := by
  rw [renameReferences, renameReferences]
  split
  · rfl
  · exact Reference.trimEnd_rename r text

theorem renameReferences_eq_nil {statement text : Bytes} :
    renameReferences r statement text = [] ↔ text = [] := by
  rw [renameReferences]
  split
  · rfl
  · rw [← List.head?_eq_none_iff, Reference.head?_rename, List.head?_eq_none_iff]

/-- The label of a line does not depend on the blanks around it. -/
theorem label?_trim (text : Bytes) : label? text.trim = label? text := by
  rw [label?, trimmed_trim text]
  rfl

theorem statement_trim (text : Bytes) : statement text.trim = statement text := by
  rw [statement, trimmed_trim text]
  rfl

theorem isSolid_colon : IsSolid [':'.toUInt8] := isSolid_singleton (by decide) (by decide)

theorem trimStart_colon (c s : Bytes) :
    (c ++ ':'.toUInt8 :: s).trimStart = c.trimStart ++ ':'.toUInt8 :: s :=
  trimStart_append isSolid_colon c s

theorem trimEnd_colon (c s : Bytes) :
    (c ++ ':'.toUInt8 :: s).trimEnd = c ++ ':'.toUInt8 :: s.trimEnd :=
  trimEnd_append isSolid_colon c s

/-- A label stands behind the indentation of its line, and a colon behind it. -/
theorem exists_label {text name : Bytes} (h : label? text = some name) :
    ∃ behind : Bytes, text.trimStart = name ++ ':'.toUInt8 :: behind ∧
      text.trim = name ++ ':'.toUInt8 :: behind.trimEnd := by
  obtain ⟨rest, hline⟩ : ∃ rest, text.trim = name ++ ':'.toUInt8 :: rest := by
    obtain ⟨cut, hcut⟩ : ∃ cut, Label.split text.trim = (some name, cut) := ⟨_, Prod.ext h rfl⟩
    have hsplits := Label.splits_iff.mpr hcut
    generalize text.trim = line at hsplits
    cases hsplits with
    | @label _ behind => exact ⟨behind, rfl⟩
  obtain ⟨ending, hcut⟩ := exists_trimEnd_append text.trimStart
  rw [← trim_eq_trimEnd, hline, List.append_assoc, List.cons_append] at hcut
  refine ⟨rest ++ ending, hcut, ?_⟩
  rw [trim_eq_trimEnd, hcut, trimEnd_colon]

/-- A line with a label, renamed in front of its colon and behind it. -/
theorem rename_of_label {text name behind : Bytes} (h : label? text = some name)
    (hstart : text.trimStart = name ++ ':'.toUInt8 :: behind) :
    rename r text = text.indent ++ (Label.rename r name ++
      ':'.toUInt8 :: renameReferences r (statement text) behind) := by
  rw [rename, h]
  show text.indent ++ (Label.rename r name ++
    renameReferences r (statement text) (text.trimStart.drop name.length)) = _
  rw [hstart, List.drop_left, renameReferences_colon]

/-- Another name in the place of a label keeps the indentation in front of it. -/
theorem trimStart_rename {indent name behind : Bytes}
    (h : (indent ++ (name ++ ':'.toUInt8 :: behind)).trimStart = name ++ ':'.toUInt8 :: behind)
    (behind' : Bytes) :
    (indent ++ (Label.rename r name ++ ':'.toUInt8 :: behind')).trimStart =
      Label.rename r name ++ ':'.toUInt8 :: behind' := by
  by_cases hname : Label.isIdentifier name = true
  · have hname' : Label.isIdentifier (Label.rename r name) = true :=
      (Label.isIdentifier_rename r name).trans hname
    rw [trimStart_append (Label.isSolid_of_isIdentifier hname)] at h
    rw [trimStart_append (Label.isSolid_of_isIdentifier hname'), List.append_left_eq_self.mp h,
      List.nil_append]
  · -- what is no name is left as it is, and the colon behind it stops trimming
    rw [Label.rename, dif_neg hname]
    rw [← List.append_assoc, trimStart_colon] at h ⊢
    rw [List.append_cancel_right h]

/-- **RENAMING AND TRIMMING.**  A line is renamed in the same way with and without blanks around
    it. -/
theorem trim_rename (text : Bytes) : (rename r text).trim = rename r text.trim := by
  cases hlabel : label? text with
  | none =>
      rw [rename, hlabel, rename, label?_trim, hlabel, statement_trim]
      exact trim_renameReferences _ _
  | some name =>
      obtain ⟨behind, hstart, htrim⟩ := exists_label hlabel
      have hlabel' : label? text.trim = some name := (label?_trim text).trans hlabel
      have hstart' : text.trim.trimStart = name ++ ':'.toUInt8 :: behind.trimEnd := by
        rw [(trimmed_trim text).trimStart_eq, htrim]
      have hindent : (text.indent ++ (name ++ ':'.toUInt8 :: behind)).trimStart =
          name ++ ':'.toUInt8 :: behind := by
        rw [← hstart, indent_append_trimStart]
      rw [rename_of_label hlabel hstart, rename_of_label hlabel' hstart', trim_eq_trimEnd,
        trimStart_rename hindent, trimEnd_colon, (trimmed_trim text).indent_eq_nil, statement_trim,
        trimEnd_renameReferences, List.nil_append]

theorem rename_eq_nil {text : Bytes} : rename r text = [] ↔ text = [] := by
  cases hlabel : label? text with
  | none =>
      rw [rename, hlabel]
      exact renameReferences_eq_nil
  | some name =>
      obtain ⟨behind, hstart, -⟩ := exists_label hlabel
      rw [rename_of_label hlabel hstart]
      constructor
      · intro h
        simp at h
      · rintro rfl
        cases hlabel

/-- What ends a label is no part of a reference. -/
theorem not_isPlain_of_isBreak (b : UInt8) : Label.isBreak b = true → Reference.isPlain b = false := by
  revert b
  exact forall_byte (by decide +kernel)

/-- A colon that belongs to the statement of a line still does. -/
theorem belongs_rename {front : Bytes} (h : Label.Belongs front) :
    Label.Belongs (Reference.rename r front) := by
  rcases h with hdot | hbreak
  · exact Or.inl ((Reference.head?_rename r front).trans hdot)
  · obtain ⟨b, hb, hbreak⟩ := List.any_eq_true.mp hbreak
    have hmem := (Reference.mem_rename r (not_isPlain_of_isBreak b hbreak)).mpr hb
    exact Or.inr (List.any_eq_true.mpr ⟨b, hmem, hbreak⟩)

/-- References do not make a label of a statement. -/
theorem splits_rename {line rest : Bytes} (h : Label.Splits line (none, rest)) :
    Label.Splits (Reference.rename r line) (none, Reference.rename r line) := by
  have hcolon : Reference.isPlain ':'.toUInt8 = false := by decide
  cases h with
  | bare h => exact .bare (mt (Reference.mem_rename r hcolon).mp h)
  | statement hfront h =>
      rw [Reference.rename_divided r hcolon]
      exact .statement (mt (Reference.mem_rename r hcolon).mp hfront) (belongs_rename h)

/-- A name is a label wherever it stands in front of a colon. -/
theorem splits_label {name : Bytes} (h : Label.isIdentifier name = true) (behind : Bytes) :
    Label.Splits (name ++ ':'.toUInt8 :: behind) (some name, behind.trim) := by
  have hword := Label.isWord_of_isIdentifier h
  refine .label (fun hmem => ?_) ?_
  · exact absurd (hword _ hmem) (by decide)
  · rintro (hdot | hbreak)
    · exact absurd (hword _ (List.mem_of_mem_head? hdot)) (by decide)
    · obtain ⟨b, hb, hbreak⟩ := List.any_eq_true.mp hbreak
      have hplain := Reference.isPlain_of_isWord (hword b hb)
      rw [not_isPlain_of_isBreak b hbreak] at hplain
      cases hplain

/-- **RENAMING AND LABELS.**  A line that is renamed has the new name of its label in front of its
    statement, renamed. -/
theorem split_rename {line rest : Bytes} {label : Option Bytes} (htrim : Trimmed line)
    (h : Label.split line = (label, rest))
    (hlabel : ∀ name ∈ label, Label.isIdentifier name = true) :
    Label.split (rename r line) = (label.map (Label.rename r), renameReferences r rest rest) := by
  have hlabel? : label? line = label := by rw [label?, htrim, h]
  have hstatement : statement line = rest := by rw [statement, htrim, h]
  have hsplits := Label.splits_iff.mpr h
  cases label with
  -- without a label, a colon can only be one that belongs to the statement
  | none =>
      obtain rfl : rest = line := by cases hsplits <;> rfl
      rw [rename, hlabel?, hstatement]
      show Label.split (renameReferences r rest rest) = (none, renameReferences r rest rest)
      rw [renameReferences]
      split
      · exact h
      · exact Label.splits_iff.mp (splits_rename hsplits)
  -- the new name is a label too, so the line is cut at the same colon
  | some name =>
      obtain ⟨behind, hstart, -⟩ := exists_label hlabel?
      have hname : Label.isIdentifier (Label.rename r name) = true :=
        (Label.isIdentifier_rename r name).trans (hlabel name rfl)
      have hrest : rest = behind.trim := by
        rw [htrim.trimStart_eq] at hstart
        rw [hstart, Label.splits_iff.mp (splits_label (hlabel name rfl) behind)] at h
        exact (Prod.ext_iff.mp h).2.symm
      rw [rename_of_label hlabel? hstart, htrim.indent_eq_nil, List.nil_append,
        Label.splits_iff.mp (splits_label hname _), hstatement, trim_renameReferences, hrest]
      rfl

end Source

section Passes

variable (r : Label.Name → Label.Name)

/-- A body with its references under other names. -/
def Body.rename : Body → Body
  | .nothing => .nothing
  | .marker s => .marker s
  | .text rest => .text (Source.renameReferences r rest rest)

/-- A statement under other names. -/
def Statement.rename (st : Statement) : Statement :=
  ⟨st.label.map (Label.rename r), st.body.rename r⟩

/-- A line under other names. -/
def SourceLine.rename (line : SourceLine) : SourceLine :=
  { line with text := Source.rename r line.text }

/-- An item of a line under other names. -/
def Item.rename (i : Item) : Item := { i with line := Source.rename r i.line }

/-- The first pass under other names. -/
def Layout.rename (l : Layout) : Layout := { l with labels := l.labels.rename r }

/-- The second pass over lines under other names. -/
def Assembly.rename (s : Assembly) : Assembly := { s with items := s.items.map (Item.rename r) }

/-- A configuration with other names for its labels. -/
def Config.rename (c : Config) : Config :=
  { c with symbols := c.symbols.map fun symbols =>
      symbols.map fun (name, address) => (Label.rename r name, address) }

variable {r}

/-! ## Statements -/

/-- A text with a reference in it marks no section. -/
theorem Body.ofText_of_mark {rest : Bytes} (h : Reference.mark ∈ rest) :
    ofText rest = .text rest :=
  ofText_of_mem (by decide) h

/-- References make no difference to what a statement is. -/
theorem Body.ofText_rename (rest : Bytes) :
    ofText (Source.renameReferences r rest rest) = (ofText rest).rename r := by
  by_cases hmark : Reference.mark ∈ rest
  · have hmark' : Reference.mark ∈ Source.renameReferences r rest rest := by
      rw [Source.renameReferences]
      split
      · exact hmark
      · exact (Reference.mark_mem_rename r).mpr hmark
    rw [ofText_of_mark hmark, ofText_of_mark hmark']
    rfl
  · have hsame : Source.renameReferences r rest rest = rest := by
      rw [Source.renameReferences]
      split
      · rfl
      · exact Reference.rename_of_not_mem r hmark
    rw [hsame]
    cases hbody : ofText rest with
    | nothing => rfl
    | marker m => rfl
    | text text =>
        rw [← Body.eq_of_ofText hbody, Body.rename, hsame]

/-- A renamed line reads as the renamed statement. -/
theorem Statement.read_rename {line : Bytes} {st : Statement} (htrim : Trimmed line)
    (h : read line = .ok st) : read (Source.rename r line) = .ok (st.rename r) := by
  have hlabel : ∀ name ∈ st.label, Label.isIdentifier name = true :=
    fun name hname => isIdentifier_of_read h hname
  rw [eq_of_read h] at hlabel ⊢
  have hsplit := Source.split_rename (r := r) htrim rfl hlabel
  rw [read_of_split hsplit, Body.ofText_rename]
  · rfl
  · intro name hname
    obtain ⟨old, hold, rfl⟩ := Option.map_eq_some_iff.mp hname
    rw [Label.isIdentifier_rename]
    exact hlabel old hold

/-- A directive under other names takes up as many bytes. -/
theorem Directive.size_renameReferences {text : Bytes} {n : Nat} (htrim : Trimmed text)
    (h : size text = .ok n) : size (Source.renameReferences r text text) = .ok n := by
  rw [Source.renameReferences]
  split
  · exact h
  · rename_i hverb
    exact size_rename r htrim hverb h

theorem Layout.codeSize_renameReferences (text : Bytes) :
    codeSize (Source.renameReferences r text text) = codeSize text := by
  rw [Source.renameReferences]
  split
  · rfl
  · exact codeSize_rename r text

namespace SourceLine

/-- A renamed line stays a line with its number, and an empty one is still left out. -/
theorem ofText?_rename (number : Nat) (text : Bytes) :
    ofText? number (Source.rename r text) = (ofText? number text).map (rename r) := by
  rw [ofText?, ofText?, Source.trim_rename]
  by_cases hnil : text.trim = []
  · rw [if_pos hnil, if_pos (Source.rename_eq_nil.mpr hnil)]
    rfl
  · rw [if_neg hnil, if_neg (mt Source.rename_eq_nil.mp hnil)]
    rfl

/-- A source that is renamed has the same lines, renamed. -/
theorem linesFrom_rename (number : Nat) (texts : List Bytes) :
    linesFrom number (texts.map (Source.rename r)) = (linesFrom number texts).map (rename r) := by
  induction texts generalizing number with
  | nil => rfl
  | cons text texts ih =>
      rw [List.map_cons, linesFrom_cons, linesFrom_cons, ofText?_rename, ih, List.map_append]
      cases ofText? number text <;> rfl

end SourceLine

/-! ## The two passes -/

variable (hr : Function.Injective r)

include hr

/-- The table of a renamed configuration is the renamed table. -/
theorem Config.labels_rename (c : Config) : (c.rename r).labels = c.labels.rename r := by
  rw [labels, labels, LabelTable.rename_ofList hr]
  cases hsymbols : c.symbols with
  | none =>
      rw [rename, hsymbols]
      rfl
  | some symbols =>
      rw [rename, hsymbols]
      show LabelTable.ofList ((symbols.map _).map _) = LabelTable.ofList ((symbols.map _).map _)
      rw [List.map_map, List.map_map]
      rfl

namespace Layout

variable {l l' : Layout}

/-- A renamed label is defined at the same place. -/
theorem define_rename (label : Option Bytes) :
    (l.define label).rename r = (l.rename r).define (label.map (Label.rename r)) := by
  cases label with
  | none => rfl
  | some name =>
      show Layout.mk ((l.labels.insert name l.here).rename r) _ _ _ = _
      rw [LabelTable.rename_insert hr]
      rfl

omit hr in
/-- A renamed line takes up as much room. -/
theorem advance_rename {body : Body} (htrim : ∀ text, body = .text text → Trimmed text)
    (h : l.advance body = .ok l') : (l.rename r).advance (body.rename r) = .ok (l'.rename r) := by
  cases body with
  | nothing =>
      cases h
      rfl
  | marker m =>
      obtain ⟨entered, henter, h⟩ := bind_eq_ok.mp h
      cases pure_eq_ok.mp h
      exact bind_eq_ok.mpr ⟨entered, henter, rfl⟩
  | text text =>
      rw [advance] at h
      rw [Body.rename, advance]
      show (if l.inCode then _ else _) = _
      by_cases hin : l.inCode = true
      · -- sizes depend on mnemonics and on the number of values, which keep their words
        rw [if_pos hin] at h ⊢
        cases h
        rw [codeSize_renameReferences]
        rfl
      · rw [if_neg hin] at h ⊢
        obtain ⟨n, hsize, h⟩ := bind_eq_ok.mp h
        cases pure_eq_ok.mp h
        exact bind_eq_ok.mpr ⟨n, Directive.size_renameReferences (htrim text rfl) hsize, rfl⟩

/-- One line in the first pass. -/
theorem step_rename {line : Bytes} (htrim : Trimmed line) (h : l.step line = .ok l') :
    (l.rename r).step (Source.rename r line) = .ok (l'.rename r) := by
  obtain ⟨st, hst, hadvance⟩ := bind_eq_ok.mp h
  refine bind_eq_ok.mpr ⟨st.rename r, Statement.read_rename htrim hst, ?_⟩
  show ((l.rename r).define (st.label.map (Label.rename r))).advance (st.body.rename r) = _
  rw [← define_rename hr]
  refine advance_rename (fun text hbody => ?_) hadvance
  rw [← Statement.text_of_read hst hbody]
  exact Label.trimmed_split htrim

/-- All lines in the first pass. -/
theorem run_rename {lines : List SourceLine} (htrim : ∀ line ∈ lines, Trimmed line.text)
    (h : l.run lines = .ok l') :
    (l.rename r).run (lines.map (SourceLine.rename r)) = .ok (l'.rename r) := by
  refine foldlM_map_eq_ok (fun line hline s s' hstep => ?_) h
  exact mapError_eq_ok.mpr (step_rename hr (htrim line hline) (mapError_eq_ok.mp hstep))

end Layout

/-- A text and a table under other names are filled in with the same addresses. -/
theorem Emission.fill_rename {labels : LabelTable} {inCode : Bool} {text filled : Bytes}
    (hcode : inCode = true → text.head? ≠ some '.'.toUInt8)
    (h : fill labels inCode text = .ok filled) :
    fill (labels.rename r) inCode (Source.renameReferences r text text) = .ok filled := by
  by_cases hkeyword : Directive.Kind.asciiz.keyword.isPrefixOf text = true
  · -- a line that looks like a string is not renamed, and not filled in either
    rw [Source.renameReferences, if_pos hkeyword]
    cases inCode with
    | true =>
        obtain ⟨rest, rfl⟩ := List.isPrefixOf_iff_prefix.mp hkeyword
        have hdot : Directive.Kind.asciiz.keyword.head? = some '.'.toUInt8 := by decide
        -- in the code section it would be filled in, but no such line starts with a dot
        refine absurd ?_ (hcode rfl)
        rw [List.head?_append, hdot]
        rfl
    | false =>
        have hverb : isVerbatim false text = true := hkeyword
        rw [fill, if_pos hverb] at h ⊢
        exact h
  · have hfilled : ∀ {s : Bytes}, ¬ Directive.Kind.asciiz.keyword.isPrefixOf s = true →
        ∀ labels, fill labels inCode s = Reference.substitute labels s := by
      intro s hs labels
      rw [fill, isVerbatim, Bool.eq_false_iff.mpr hs, Bool.and_false]
      rfl
    -- renaming does not make a string directive of another line
    have hkeyword' : ¬ Directive.Kind.asciiz.keyword.isPrefixOf (Reference.rename r text) = true := by
      rw [List.isPrefixOf_iff_prefix] at hkeyword ⊢
      exact mt (Reference.prefix_rename r (Directive.mark_notMem_keyword .asciiz)).mp hkeyword
    rw [hfilled hkeyword] at h
    rw [Source.renameReferences, if_neg hkeyword, hfilled hkeyword']
    exact Reference.substitute_rename hr h

namespace Assembly

variable {labels : LabelTable} {line : SourceLine} {s s' : Assembly}

omit hr in
/-- An item is added with the renamed line. -/
theorem rename_add (line : SourceLine) (e : Emission) :
    (s.add line e).rename r = (s.rename r).add (line.rename r) e := by
  cases e <;> rfl

/-- A line under other names does the same. -/
theorem Moves.rename {body : Body} (h : Moves labels line s body s') :
    Moves (labels.rename r) (line.rename r) (s.rename r) (body.rename r) (s'.rename r) := by
  cases h with
  | nothing => exact .nothing
  | marker henter => exact .marker henter
  | data hin hfill hread =>
      rw [rename_add]
      exact .data hin (Emission.fill_rename hr nofun hfill) hread
  | code hin hfill hread hlegal =>
      rw [rename_add]
      have hdot := Instruction.head?_ne_dot hfill hread
      exact .code hin (Emission.fill_rename hr (fun _ => hdot) hfill) hread hlegal

/-- One line in the second pass. -/
theorem step_rename (htrim : Trimmed line.text) (h : s.step labels line = .ok s') :
    (s.rename r).step (labels.rename r) (line.rename r) = .ok (s'.rename r) := by
  obtain ⟨st, hst, hmoves⟩ := moves_of_step h
  exact step_of_moves (Statement.read_rename htrim hst) (hmoves.rename hr)

/-- All lines in the second pass. -/
theorem run_rename {lines : List SourceLine} (htrim : ∀ line ∈ lines, Trimmed line.text)
    (h : s.run labels lines = .ok s') :
    (s.rename r).run (labels.rename r) (lines.map (SourceLine.rename r)) = .ok (s'.rename r) := by
  refine foldlM_map_eq_ok (fun line hline s s' hstep => ?_) h
  exact mapError_eq_ok.mpr (step_rename hr (htrim line hline) (mapError_eq_ok.mp hstep))

end Assembly

/-! ## Programs -/

omit hr

/-- Lines are no part of an image. -/
theorem Program.image_rename {c : Config} {D C : Bytes} {p q : Program} (h : p.Placed c D C)
    (hitems : q.items = p.items.map (Item.rename r)) : q.image = p.image :=
  image_map (f := Item.rename r) (fun _ => rfl) (fun _ => rfl) h hitems

end Passes

/-- **LABEL NAMES CARRY NO MEANING.**  A source that is assembled is assembled under other names
    too, if different names stay different: the image is the same, every item is the same at the
    same address except for the text of its line, and the label table is the same under the other
    names.  Names of the configuration that no label could have are left as they are. -/
theorem assemble_rename (r : Label.Name → Label.Name) (hr : Function.Injective r) (c : Config)
    (texts : List Bytes) (p : Program) (h : assemble c texts = .ok p) :
    ∃ q, assemble (c.rename r) (texts.map (Source.rename r)) = .ok q ∧
      (∃ image, p.image = .ok image ∧ q.image = .ok image) ∧
      q.items.map Item.address = p.items.map Item.address ∧
      q.items = p.items.map (Item.rename r) ∧ q.labels = p.labels.rename r := by
  obtain ⟨D, C, hp⟩ := placed_of_assemble h
  obtain ⟨l, s, hlayout, hassembly, rfl⟩ := assemble_eq_ok.mp h
  have htrim : ∀ line ∈ SourceLine.ofTexts texts, Trimmed line.text :=
    fun line => SourceLine.trimmed_of_mem
  have hlines : SourceLine.ofTexts (texts.map (Source.rename r)) =
      (SourceLine.ofTexts texts).map (SourceLine.rename r) := SourceLine.linesFrom_rename 1 texts
  have hstart : Layout.start (c.rename r) = (Layout.start c).rename r := by
    rw [Layout.start, Config.labels_rename hr]
    rfl
  have hitems : (s.rename r).items.reverse = s.items.reverse.map (Item.rename r) :=
    List.map_reverse.symm
  -- both passes take each renamed line to the renamed state
  refine ⟨⟨(s.rename r).items.reverse, l.labels.rename r⟩, ?_, ?_, ?_, hitems, rfl⟩
  · refine assemble_eq_ok.mpr ⟨l.rename r, s.rename r, ?_, ?_, rfl⟩
    · rw [hlines, hstart]
      exact Layout.run_rename hr htrim hlayout
    · rw [hlines]
      exact Assembly.run_rename hr htrim hassembly
  · have himage := Program.image_of_joined hp.one hp.dataBytes hp.codeBytes
    exact ⟨_, himage, (Program.image_rename hp hitems).trans himage⟩
  · rw [hitems, List.map_map]
    rfl

theorem Label.isIdentifier_underscore {name : Bytes} (h : isIdentifier name = true) :
    isIdentifier ('_'.toUInt8 :: name) = true := by
  rw [isIdentifier, Bool.and_eq_true, List.all_cons, Bool.and_eq_true, List.all_eq_true]
  exact ⟨by decide, by decide, isWord_of_isIdentifier h⟩

/-- The name with an underscore in front of it. -/
def Label.underscored (name : Label.Name) : Label.Name :=
  ⟨'_'.toUInt8 :: name.val, isIdentifier_underscore name.property⟩

/-- Different names are still different behind an underscore. -/
theorem Label.underscored_injective : Function.Injective underscored := by
  intro name other h
  exact Subtype.ext (List.cons.inj (congrArg Subtype.val h)).2

/-- A source with a name in quotes, a label that is used before it is defined, and labels of the
    configuration. -/
def quotingSource : List Bytes :=
  ["  m: .asciiz \x60@m\x60", "\tn: .word @later", ".code", "movi ax,@m",
    "later: out ax , @port"].map Bytes.ofString

/-- The same with underscores. -/
def underscoredSource : List Bytes :=
  ["  _m: .asciiz \x60@m\x60", "\t_n: .word @_later", ".code", "movi ax,@_m",
    "_later: out ax , @_port"].map Bytes.ofString

/-- What both assemble to, under the names of the first. -/
def quotingProgram : Program where
  items :=
    [⟨1, Bytes.ofString "m: .asciiz \x60@m\x60", 0x100, some (Bytes.ofString "@m" ++ [0]), none⟩,
      ⟨2, Bytes.ofString "n: .word @later", 0x103, some [2, 4], none⟩,
      ⟨4, Bytes.ofString "movi ax,@m", 0x200, none,
        some (.derive .movi (.ofRegister ⟨1⟩) (.large 0x100))⟩,
      ⟨5, Bytes.ofString "later: out ax , @port", 0x204, none,
        some (.derive ⟨18⟩ (.ofRegister ⟨1⟩) (.short 0x10))⟩]
  labels :=
    ⟨[⟨Bytes.ofString "later", ⟨0x204, .code⟩⟩, ⟨Bytes.ofString "n", ⟨0x103, .data⟩⟩,
      ⟨Bytes.ofString "m", ⟨0x100, .data⟩⟩, ⟨Bytes.ofString "b", ⟨7, .absolute⟩⟩,
      ⟨Bytes.ofString "port", ⟨0x10, .absolute⟩⟩]⟩

theorem assemble_rename_quotingSource :
    assemble portConfig quotingSource = .ok quotingProgram ∧
    quotingSource.map (Source.rename Label.underscored) = underscoredSource ∧
    ∃ q, assemble (portConfig.rename Label.underscored) underscoredSource = .ok q ∧
      (∃ image, quotingProgram.image = .ok image ∧ q.image = .ok image) ∧
      q.items.map Item.address = [0x100, 0x103, 0x200, 0x204] ∧
      q.labels.find? (Bytes.ofString "_later") = some ⟨0x204, .code⟩ := by
  have hassemble : assemble portConfig quotingSource = .ok quotingProgram := by decide +kernel
  have hrenamed : quotingSource.map (Source.rename Label.underscored) = underscoredSource := by
    decide +kernel
  obtain ⟨q, hq, himage, haddresses, -, hlabels⟩ :=
    assemble_rename Label.underscored Label.underscored_injective portConfig quotingSource
      quotingProgram hassemble
  rw [hrenamed] at hq
  refine ⟨hassemble, hrenamed, q, hq, himage, haddresses, ?_⟩
  rw [hlabels]
  decide +kernel

end TwoPass
