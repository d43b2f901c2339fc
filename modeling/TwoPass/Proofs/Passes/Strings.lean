import TwoPass.Proofs.Passes.Appending
import TwoPass.Proofs.Passes.Renaming
import TwoPass.Proofs.Source.Values

/-!
# Strings — what stands in quotes reaches the image as it is

A string may contain anything: colons, marks, quotes, the text of a section marker, white space,
bytes that are no characters.  Each pass trims its line, looks for a label in it, compares it with
the markers, cuts it into words and at its quotes, and the second fills in references before that.
The keyword in front and the quote at the end keep all of this away from what is between them
(`split_labelled`, `ofText_quotation`, `read_quotation`).  So both passes take the line for what it
is, and a source that has stayed in the data section can be continued by it
(`assemble_append_of_runs`).
-/

namespace TwoPass

open Bytes

/-! ## The line of a string -/

namespace Directive

/-- The directive that stores a string: the string in quotes behind the keyword. -/
def quotation (s : Bytes) : Bytes :=
  Kind.asciiz.keyword ++ (' '.toUInt8 :: quote :: (s ++ [quote]))

theorem isSolid_quote : IsSolid [quote] := isSolid_singleton (by decide) (by decide)

theorem trimmed_quotation (s : Bytes) : Trimmed (quotation s) :=
  trimmed_of_isSolid (isSolid_keyword .asciiz) isSolid_quote (' '.toUInt8 :: quote :: s)

/-- The blank ends the keyword, whatever the string is. -/
theorem exists_words_quotation (s : Bytes) :
    ∃ values, (quotation s).words = Kind.asciiz.keyword :: values := by
  have hsolid := isSolid_keyword .asciiz
  refine ⟨_, wordsBy_append hsolid.1 hsolid.2 ?_⟩
  intro g hg
  rw [glyphs_cons_ascii (by decide)] at hg
  cases hg
  decide

/-- The first quote is the one in front of the string and the last the one behind it, however
    many there are between them. -/
theorem quoted_quotation (s : Bytes) : quoted (quotation s) = .ok s := by
  have hfirst : splitAt? quote (quotation s) =
      some (Kind.asciiz.keyword ++ [' '.toUInt8], s ++ [quote]) := by
    refine splitAt?_eq_some.mpr ⟨?_, by decide⟩
    rw [List.append_assoc]
    rfl
  have hlast : splitAt? quote (s ++ [quote]).reverse = some ([], s.reverse) := by
    refine splitAt?_eq_some.mpr ⟨?_, List.not_mem_nil⟩
    rw [List.reverse_append]
    rfl
  simp only [quoted, hfirst, hlast, List.reverse_reverse]

/-- A quotation has its bytes and a zero. -/
theorem read_quotation (s : Bytes) : read (quotation s) = .ok (s ++ [0]) := by
  obtain ⟨values, hwords⟩ := exists_words_quotation s
  rw [read_of_split (split_eq_ok.mpr hwords), readAs, quoted_quotation]
  rfl

/-- No table has a say in what a string is. -/
theorem fill_quotation (labels : LabelTable) (s : Bytes) :
    Emission.fill labels false (quotation s) = .ok (quotation s) := by
  have hkeyword : Kind.asciiz.keyword.isPrefixOf (quotation s) = true :=
    List.isPrefixOf_iff_prefix.mpr (List.prefix_append _ _)
  exact if_pos hkeyword

/-- The first pass counts as many. -/
theorem size_quotation (s : Bytes) : size (quotation s) = .ok (s.length + 1) := by
  have hsize := size_of_read (trimmed_quotation s) (fill_quotation ⟨[]⟩ s) (read_quotation s)
  rwa [List.length_append] at hsize

/-- A string is no marker, even if it looks like one. -/
theorem ofText_quotation (s : Bytes) : Body.ofText (quotation s) = .text (quotation s) := by
  have hmarkers : ∀ marker ∈ Section.markers, quote ∉ marker := by decide
  refine Body.ofText_of_mem hmarkers ?_
  exact List.mem_append_right _ (List.mem_cons_of_mem _ List.mem_cons_self)

end Directive

open Directive

/-! ## Labels in front of it -/

/-- A statement that starts with a dot has no label, wherever its first colon is. -/
theorem Label.split_of_dot {line : Bytes} (h : line.head? = some '.'.toUInt8) :
    split line = (none, line) := by
  generalize hcut : split line = cut
  cases splits_iff.mpr hcut with
  | bare => rfl
  | statement => rfl
  | @label name behind _ hname =>
      refine absurd (Or.inl ?_) hname
      cases name with
      | nil => cases h
      | cons b name => exact h

namespace Source

/-- A statement with a label in front of it, if there is one. -/
def labelled (label : Option Bytes) (statement : Bytes) : Bytes :=
  match label with
  | none => statement
  | some name => name ++ ':'.toUInt8 :: ' '.toUInt8 :: statement

/-- A label on a line of its own. -/
def bareLabel (name : Bytes) : Bytes := name ++ [':'.toUInt8]

variable {label : Option Bytes} {name : Bytes}

theorem trimmed_labelled (hlabel : ∀ name ∈ label, Label.isIdentifier name = true) (s : Bytes) :
    Trimmed (labelled label (quotation s)) := by
  cases label with
  | none => exact trimmed_quotation s
  | some name =>
      exact trimmed_of_isSolid (Label.isSolid_of_isIdentifier (hlabel name rfl)) isSolid_quote
        (':'.toUInt8 :: ' '.toUInt8 :: (Kind.asciiz.keyword ++ ' '.toUInt8 :: quote :: s))

/-- The label is what was put in front, and the string is behind it. -/
theorem split_labelled (hlabel : ∀ name ∈ label, Label.isIdentifier name = true) (s : Bytes) :
    Label.split (labelled label (quotation s)) = (label, quotation s) := by
  cases label with
  | none => exact Label.split_of_dot rfl
  | some name =>
      have hblank : IsBlank [' '.toUInt8] := by decide
      have htrim := trim_between hblank isBlank_nil (quotation s)
      rw [List.append_nil, trimmed_quotation s] at htrim
      rw [labelled, Label.splits_iff.mp (splits_label (hlabel name rfl) _)]
      exact congrArg (Prod.mk (some name)) htrim

/-- A label in front is read as one. -/
theorem read_labelled (hlabel : ∀ name ∈ label, Label.isIdentifier name = true) (s : Bytes) :
    Statement.read (labelled label (quotation s)) = .ok ⟨label, .text (quotation s)⟩ := by
  rw [Statement.read_of_split (split_labelled hlabel s) hlabel, ofText_quotation]

theorem trimmed_bareLabel (hname : Label.isIdentifier name = true) : Trimmed (bareLabel name) :=
  trimmed_of_isSolid (Label.isSolid_of_isIdentifier hname) isSolid_colon []

theorem split_bareLabel (hname : Label.isIdentifier name = true) :
    Label.split (bareLabel name) = (some name, []) :=
  Label.splits_iff.mp (splits_label hname [])

/-- A line of a label alone has nothing else. -/
theorem read_bareLabel (hname : Label.isIdentifier name = true) :
    Statement.read (bareLabel name) = .ok ⟨some name, .nothing⟩ := by
  refine Statement.read_of_split (split_bareLabel hname) ?_
  intro other hother
  cases hother
  exact hname

end Source

/-! ## Lines -/

variable {label : Option Bytes} {name : Bytes}

/-- A trimmed text with something on it is a line as it stands. -/
theorem SourceLine.linesFrom_cons_trimmed {text : Bytes} (htrim : Trimmed text) (hne : text ≠ [])
    (k : Nat) (texts : List Bytes) :
    linesFrom k (text :: texts) = ⟨k, text⟩ :: linesFrom (k + 1) texts := by
  rw [linesFrom_cons, ofText?, htrim, if_neg hne]
  rfl

namespace Source

/-- A string, which may have a label, and a label behind it. -/
def quotationLines (label : Option Bytes) (name s : Bytes) (k : Nat) : List SourceLine :=
  [⟨k, labelled label (quotation s)⟩, ⟨k + 1, bareLabel name⟩]

/-- The two lines, with their numbers. -/
theorem linesFrom_quotation (hlabel : ∀ other ∈ label, Label.isIdentifier other = true)
    (hname : Label.isIdentifier name = true) (s : Bytes) (k : Nat) :
    SourceLine.linesFrom k [labelled label (quotation s), bareLabel name] =
      quotationLines label name s k := by
  have hne : labelled label (quotation s) ≠ [] := by
    cases label with
    | none => exact List.cons_ne_nil _ _
    | some other => exact List.append_ne_nil_of_right_ne_nil _ (List.cons_ne_nil _ _)
  have hne' : bareLabel name ≠ [] := List.append_ne_nil_of_right_ne_nil _ (List.cons_ne_nil _ _)
  rw [SourceLine.linesFrom_cons_trimmed (trimmed_labelled hlabel s) hne,
    SourceLine.linesFrom_cons_trimmed (trimmed_bareLabel hname) hne']
  rfl

/-- These lines define their two labels, and nothing that is written in the string. -/
theorem label_of_mem_quotationLines (hlabel : ∀ other ∈ label, Label.isIdentifier other = true)
    (hname : Label.isIdentifier name = true) {s other : Bytes} {k : Nat} {line : SourceLine}
    (h : line ∈ quotationLines label name s k) (hother : (Label.split line.text).1 = some other) :
    other ∈ label ∨ other = name := by
  rcases List.mem_cons.mp h with rfl | h
  · rw [split_labelled hlabel s] at hother
    exact Or.inl hother
  · rw [List.mem_singleton.mp h, split_bareLabel hname] at hother
    exact Or.inr (Option.some.inj hother).symm

end Source

/-! ## Both passes over these lines -/

namespace Layout

variable {l : Layout}

/-- The first pass makes room for the string and the zero behind it. -/
theorem step_quotation (hin : l.inCode = false)
    (hlabel : ∀ name ∈ label, Label.isIdentifier name = true) (s : Bytes) :
    l.step (Source.labelled label (quotation s)) =
      .ok { l.define label with dataNext := l.dataNext + (s.length + 1 : Nat) } := by
  refine bind_eq_ok.mpr ⟨_, Source.read_labelled hlabel s, ?_⟩
  have hdata : ¬ (l.define label).inCode = true := by
    rw [inCode_define, hin]
    exact Bool.false_ne_true
  show (l.define label).advance (.text (quotation s)) = _
  rw [advance, if_neg hdata, size_quotation]
  cases label <;> rfl

theorem step_bareLabel (hname : Label.isIdentifier name = true) :
    l.step (Source.bareLabel name) = .ok (l.define (some name)) :=
  bind_eq_ok.mpr ⟨_, Source.read_bareLabel hname, rfl⟩

/-- Where the first pass is behind a string, which may have a label, and a label behind it. -/
def behindQuotation (l : Layout) (label : Option Bytes) (name s : Bytes) : Layout :=
  define { l.define label with dataNext := l.dataNext + (s.length + 1 : Nat) } (some name)

/-- The first pass over both lines. -/
theorem run_quotation (hin : l.inCode = false)
    (hlabel : ∀ other ∈ label, Label.isIdentifier other = true)
    (hname : Label.isIdentifier name = true) (s : Bytes) (k : Nat) :
    l.run (Source.quotationLines label name s k) = .ok (l.behindQuotation label name s) := by
  refine foldlM_cons_eq_ok.mpr ⟨_, mapError_eq_ok.mpr (step_quotation hin hlabel s), ?_⟩
  refine foldlM_cons_eq_ok.mpr ⟨_, mapError_eq_ok.mpr (step_bareLabel hname), ?_⟩
  exact foldlM_nil_eq_ok.mpr rfl

/-- The label in front of the string stands where the string does. -/
theorem find?_behindQuotation {other : Bytes} (hother : label = some other) (hne : other ≠ name)
    (s : Bytes) : (l.behindQuotation label name s).labels.find? other = some l.here := by
  subst hother
  exact (LabelTable.find?_insert_of_ne hne.symm).trans LabelTable.find?_insert_self

/-- The label behind it stands behind the string and its zero. -/
theorem find?_behindQuotation_self (hin : l.inCode = false) (label : Option Bytes)
    (name s : Bytes) :
    (l.behindQuotation label name s).labels.find? name =
      some ⟨l.dataNext + (s.length + 1), .data⟩ := by
  refine LabelTable.find?_insert_self.trans ?_
  rw [here, inCode_define, hin]
  rfl

/-- Lines that define no name of the table leave a table that says the same of these. -/
theorem extends_of_run {l' : Layout} {lines : List SourceLine} (h : l.run lines = .ok l')
    (hnew : ∀ line ∈ lines, ∀ name, (Label.split line.text).1 = some name → name ∉ l.labels.names) :
    l.labels.Extends l'.labels := by
  apply LabelTable.extends_of_restrict
  rw [restrict_of_run h hnew, LabelTable.restrict_names]

end Layout

namespace Assembly

variable {t : Assembly}

/-- The second pass emits the string, whatever the labels are. -/
theorem step_quotation (hin : t.inCode = false)
    (hlabel : ∀ other ∈ label, Label.isIdentifier other = true) (labels : LabelTable) (s : Bytes)
    (k : Nat) :
    t.step labels ⟨k, Source.labelled label (quotation s)⟩ =
      .ok (t.add ⟨k, Source.labelled label (quotation s)⟩ (.data (s ++ [0]))) :=
  step_of_moves (Source.read_labelled hlabel s)
    (.data hin (fill_quotation labels s) (read_quotation s))

theorem step_bareLabel (hname : Label.isIdentifier name = true) (labels : LabelTable) (k : Nat) :
    t.step labels ⟨k, Source.bareLabel name⟩ = .ok t :=
  step_of_moves (Source.read_bareLabel hname) .nothing

/-- The second pass over both lines. -/
theorem run_quotation (hin : t.inCode = false)
    (hlabel : ∀ other ∈ label, Label.isIdentifier other = true)
    (hname : Label.isIdentifier name = true) (labels : LabelTable) (s : Bytes) (k : Nat) :
    t.run labels (Source.quotationLines label name s k) =
      .ok (t.add ⟨k, Source.labelled label (quotation s)⟩ (.data (s ++ [0]))) := by
  refine foldlM_cons_eq_ok.mpr ⟨_, mapError_eq_ok.mpr (step_quotation hin hlabel labels s k), ?_⟩
  refine foldlM_cons_eq_ok.mpr ⟨_, mapError_eq_ok.mpr (step_bareLabel hname labels (k + 1)), ?_⟩
  exact foldlM_nil_eq_ok.mpr rfl

/-- A run that ends in the data section has emitted nothing but data. -/
theorem data_of_run {c : Config} {labels : LabelTable} {lines : List SourceLine}
    (h : run labels (.start c) lines = .ok t) (hin : t.inCode = false) :
    (∀ i ∈ t.items.reverse, i.data.isSome = true ∧ i.instruction = none) ∧
      ∃ D, Item.joined t.items.reverse = .ok D := by
  obtain ⟨ds, cs, hemits⟩ := emits_of_run h
  obtain ⟨D, hD, -⟩ := hemits.data.joined
  rw [hemits.items_eq, hemits.waits hin, List.append_nil]
  exact ⟨hemits.isData, D, hD⟩

end Assembly

/-- **CONTINUING A SOURCE.**  Where both passes over a source have ended, they can go on over
    further lines that define no name of the table. -/
theorem assemble_append_of_runs {c : Config} {texts more : List Bytes} {l l' : Layout}
    {s s' : Assembly} (hl : Layout.run (.start c) (SourceLine.ofTexts texts) = .ok l)
    (hs : Assembly.run l.labels (.start c) (SourceLine.ofTexts texts) = .ok s)
    (hl' : l.run (SourceLine.linesFrom (1 + texts.length) more) = .ok l')
    (hs' : s.run l'.labels (SourceLine.linesFrom (1 + texts.length) more) = .ok s')
    (hnew : ∀ line ∈ SourceLine.linesFrom (1 + texts.length) more, ∀ name,
      (Label.split line.text).1 = some name → name ∉ l.labels.names) :
    assemble c (texts ++ more) = .ok ⟨s'.items.reverse, l'.labels⟩ := by
  refine assemble_eq_ok.mpr ⟨l', s', ?_, ?_, rfl⟩
  · rw [SourceLine.ofTexts_eq, SourceLine.linesFrom_append]
    exact foldlM_append_eq_ok.mpr ⟨l, hl, hl'⟩
  · rw [SourceLine.ofTexts_eq, SourceLine.linesFrom_append]
    have hsame := Assembly.run_of_extends (Layout.extends_of_run hl' hnew) hs
    exact foldlM_append_eq_ok.mpr ⟨s, hsame, hs'⟩

/-- A source that has not come to its code goes on with a string, and with a label behind it. -/
theorem assemble_append_quotation {c : Config} {texts : List Bytes} {l : Layout} {t : Assembly}
    (hl : Layout.run (.start c) (SourceLine.ofTexts texts) = .ok l)
    (ht : Assembly.run l.labels (.start c) (SourceLine.ofTexts texts) = .ok t)
    (hin : l.inCode = false) (htin : t.inCode = false)
    (hlabel : ∀ other ∈ label, Label.isIdentifier other = true ∧ other ∉ l.labels.names)
    (hname : Label.isIdentifier name = true) (hnew : name ∉ l.labels.names) (s : Bytes) :
    assemble c (texts ++ [Source.labelled label (quotation s), Source.bareLabel name]) =
      .ok ⟨t.items.reverse ++ [.ofEmission (1 + texts.length : Nat)
          (Source.labelled label (quotation s)) t.dataNext (.data (s ++ [0]))],
        (l.behindQuotation label name s).labels⟩ := by
  have hidentifier : ∀ other ∈ label, Label.isIdentifier other = true :=
    fun other hother => (hlabel other hother).1
  have hlines := Source.linesFrom_quotation hidentifier hname s (1 + texts.length)
  have hlayout := Layout.run_quotation hin hidentifier hname s (1 + texts.length)
  have hassembly := Assembly.run_quotation htin hidentifier hname
    (l.behindQuotation label name s).labels s (1 + texts.length)
  rw [← hlines] at hlayout hassembly
  rw [assemble_append_of_runs hl ht hlayout hassembly, Assembly.add, List.reverse_cons]
  intro line hline other hother
  rw [hlines] at hline
  rcases Source.label_of_mem_quotationLines hidentifier hname hline hother with hother | rfl
  · exact (hlabel other hother).2
  · exact hnew

/-! ## The image -/

/-- One more item puts its bytes behind those of the others. -/
theorem Item.joined_concat {items : List Item} {i : Item} {all bytes : Bytes}
    (h : joined items = .ok all) (hi : i.bytes = .ok bytes) :
    joined (items ++ [i]) = .ok (all ++ bytes) := by
  obtain ⟨parts, hparts, rfl⟩ := map_eq_ok.mp h
  refine map_eq_ok.mpr ⟨parts ++ [bytes], mapM_eq_ok.mpr ?_, ?_⟩
  · exact List.rel_append (mapM_eq_ok.mp hparts) (.cons hi .nil)
  · rw [List.flatten_append, List.flatten_singleton]

/-- The image of a program without code is its data behind the data marker. -/
theorem Program.image_of_data {p : Program} {D : Bytes}
    (hdata : ∀ i ∈ p.items, i.data.isSome = true ∧ i.instruction = none)
    (hD : Item.joined p.items = .ok D) : p.image = .ok (dataMarker ++ D) := by
  have hdatas : p.dataItems.toList = p.items :=
    List.filter_eq_self.mpr fun i hi => (hdata i hi).1
  have hcodes : p.codeItems.toList = [] := by
    refine List.filter_eq_nil_iff.mpr fun i hi => ?_
    rw [(hdata i hi).2]
    exact Bool.false_ne_true
  have hone : ∀ i ∈ p.items, i.data.isSome = i.instruction.isNone := by
    intro i hi
    rw [(hdata i hi).1, (hdata i hi).2]
    rfl
  rw [image_of_joined hone (hdatas ▸ hD) (hcodes ▸ Item.joined_nil), if_pos hcodes]

/-- What a line of data emits is put behind the image. -/
theorem Program.image_concat {items : List Item} {D : Bytes}
    (hdata : ∀ i ∈ items, i.data.isSome = true ∧ i.instruction = none)
    (hD : Item.joined items = .ok D) (number : Int) (line : Bytes) (address : Int) (bytes : Bytes)
    (labels labels' : LabelTable) :
    ∃ front, image ⟨items, labels⟩ = .ok front ∧
      image ⟨items ++ [.ofEmission number line address (.data bytes)], labels'⟩ =
        .ok (front ++ bytes) := by
  refine ⟨dataMarker ++ D, image_of_data hdata hD, ?_⟩
  rw [List.append_assoc]
  refine image_of_data ?_ (Item.joined_concat hD rfl)
  intro i hi
  rcases List.mem_append.mp hi with hi | hi
  · exact hdata i hi
  · rw [List.mem_singleton.mp hi]
    exact ⟨rfl, rfl⟩

/-- **STRINGS REACH THE IMAGE.**  Take an assembled source that has not come to its code, any
    bytes in quotes behind it, with or without a new label in front, and then another new label.
    This is assembled too.  One item is added, and its bytes are those in the quotes and a zero;
    so is what the image gains.  The first label stands where the item does, the other one right
    behind the zero. -/
theorem assemble_quotation (c : Config) (texts : List Bytes) (p : Program) (label : Option Bytes)
    (name s : Bytes) (h : assemble c texts = .ok p)
    (hdata : ∀ text ∈ texts, Source.startsCode text = false)
    (hlabel : ∀ other ∈ label,
      Label.isIdentifier other = true ∧ other ∉ p.labels.names ∧ other ≠ name)
    (hname : Label.isIdentifier name = true) (hnew : name ∉ p.labels.names) :
    ∃ (q : Program) (i : Item) (image : Bytes),
      assemble c (texts ++ [Source.labelled label (quotation s), Source.bareLabel name]) = .ok q ∧
      q.items = p.items ++ [i] ∧ i.bytes = .ok (s ++ [0]) ∧
      (∀ other ∈ label, q.labels.find? other = some ⟨i.address, .data⟩) ∧
      q.labels.find? name = some ⟨i.address + (s.length + 1), .data⟩ ∧
      p.image = .ok image ∧ q.image = .ok (image ++ (s ++ [0])) := by
  obtain ⟨l, t, hl, ht, rfl⟩ := assemble_eq_ok.mp h
  -- both passes are in the data section, at the same address
  have hin : l.inCode = false := by
    rw [(Layout.arrived_of_run hl).inCode, List.any_eq_false]
    intro text htext
    rw [hdata text htext]
    exact Bool.false_ne_true
  have hsync := (Synchronised.start c).run (fun line => SourceLine.trimmed_of_mem) hl ht
  have htin : t.inCode = false := hsync.inCode.symm.trans hin
  have hhere : l.here = ⟨t.dataNext, .data⟩ := by
    rw [Layout.here, hin, ← hsync.dataNext]
    rfl
  have hlabel' : ∀ other ∈ label, Label.isIdentifier other = true ∧ other ∉ l.labels.names :=
    fun other hother => ⟨(hlabel other hother).1, (hlabel other hother).2.1⟩
  have hq := assemble_append_quotation hl ht hin htin hlabel' hname hnew s
  -- what is emitted is data, as everything in front is
  obtain ⟨hitems, D, hD⟩ := Assembly.data_of_run ht htin
  obtain ⟨image, hp, himage⟩ := Program.image_concat hitems hD (1 + texts.length : Nat)
    (Source.labelled label (quotation s)) t.dataNext (s ++ [0]) l.labels
    (l.behindQuotation label name s).labels
  refine ⟨_, _, image, hq, rfl, rfl, ?_, ?_, hp, himage⟩
  · intro other hother
    have hne := (hlabel other hother).2.2
    exact (Layout.find?_behindQuotation hother hne s).trans (congrArg some hhere)
  · have hfind := Layout.find?_behindQuotation_self hin label name s
    rwa [hsync.dataNext] at hfind

/-- A source that stays in the data section. -/
def wordSource : List Bytes := [".data:", "x: .word 3"].map Bytes.ofString

/-- What it assembles to. -/
def wordProgram : Program where
  items := [⟨2, Bytes.ofString "x: .word 3", 0x9000, some [0, 3], none⟩]
  labels := ⟨[⟨Bytes.ofString "x", ⟨0x9000, .data⟩⟩]⟩

/-- Bytes that would mean something outside of quotes, and one that is no character. -/
def wildString : Bytes := Bytes.ofString " y: @x ` .code:\n" ++ [0xFF]

theorem assemble_quotation_wildString :
    assemble .default wordSource = .ok wordProgram ∧
    ∃ (q : Program) (i : Item) (image : Bytes),
      assemble .default (wordSource ++ [Source.labelled (some (Bytes.ofString "text"))
        (quotation wildString), Source.bareLabel (Bytes.ofString "y")]) = .ok q ∧
      q.items = wordProgram.items ++ [i] ∧ i.bytes = .ok (wildString ++ [0]) ∧
      q.labels.find? (Bytes.ofString "text") = some ⟨i.address, .data⟩ ∧
      q.labels.find? (Bytes.ofString "y") = some ⟨i.address + (wildString.length + 1), .data⟩ ∧
      wordProgram.image = .ok image ∧ q.image = .ok (image ++ (wildString ++ [0])) := by
  have hp : assemble .default wordSource = .ok wordProgram := rfl
  have hdata : ∀ text ∈ wordSource, Source.startsCode text = false := by decide
  have hlabel : ∀ other ∈ some (Bytes.ofString "text"), Label.isIdentifier other = true ∧
      other ∉ wordProgram.labels.names ∧ other ≠ Bytes.ofString "y" := by
    intro other hother
    cases hother
    decide
  obtain ⟨q, i, image, hq, hitems, hbytes, htext, hy, himage⟩ :=
    assemble_quotation .default wordSource wordProgram (some (Bytes.ofString "text"))
      (Bytes.ofString "y") wildString hp hdata hlabel (by decide) (by decide)
  exact ⟨hp, q, i, image, hq, hitems, hbytes, htext _ rfl, hy, himage⟩

end TwoPass
