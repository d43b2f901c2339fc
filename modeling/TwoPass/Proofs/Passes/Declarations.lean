import Mathlib.Algebra.GroupWithZero.Nat
import Mathlib.Data.List.Induction
import TwoPass.Proofs.Passes.Labels

/-!
# Declarations — the label table read off the source

The first pass carries a table, a section and two addresses from line to line.  Here its result
is described without a run.  A line stands in the code section if an earlier one marks the start
of it; a section has arrived where the sizes of its lines so far add up to; and a name stands
for the place of the last line that defines it, or else for what the configuration says.

`Arrived` ties the two together: behind any texts, the first pass is in the section and at the
addresses that these texts give.  One more text keeps this (`Arrived.step`), so it holds behind
every source (`arrived_of_run`).
-/

namespace TwoPass

open Bytes

/-! ## What a source says by itself -/

/-- The bytes that the first pass gives a body in a section. -/
def Body.sizeIn (space : Section) : Body → Except Fault Nat
  | .text line => if space = .code then .ok (Layout.codeSize line) else Directive.size line
  | _ => .ok 0

namespace Source

/-- The label in front of a line, if it has one. -/
def label? (text : Bytes) : Option Bytes := (Label.split text.trim).1

/-- What stands on a line behind its label. -/
def statement (text : Bytes) : Bytes := (Label.split text.trim).2

/-- A line that marks the start of the code section, with or without a label and a colon. -/
def startsCode (text : Bytes) : Bool :=
  statement text = Bytes.ofString ".code" ∨ statement text = Bytes.ofString ".code:"

/-- The section of a line that has some lines in front of it. -/
def sectionBehind (texts : List Bytes) : Section := if texts.any startsCode then .code else .data

/-- The lines that stand in a section. -/
def linesIn (space : Section) (texts : List Bytes) : List Bytes :=
  (texts.zipIdx.filter fun placed => sectionBehind (texts.take placed.2) = space).map Prod.fst

/-- The bytes that the first pass gives a line in a section. -/
def sizeIn (space : Section) (text : Bytes) : Except Fault Nat :=
  (Body.ofText (statement text)).sizeIn space

/-- A line with a label has something on it. -/
theorem trim_ne_nil_of_label? {text name : Bytes} (h : label? text = some name) :
    text.trim ≠ [] := by
  intro hnil
  rw [label?, hnil, Label.split_nil] at h
  cases h

/-- One more line belongs to the section that the lines in front of it have led to. -/
theorem linesIn_concat (space : Section) (texts : List Bytes) (text : Bytes) :
    linesIn space (texts ++ [text]) =
      linesIn space texts ++ if space = sectionBehind texts then [text] else [] := by
  have hfront : texts.zipIdx.filter
      (fun placed => sectionBehind ((texts ++ [text]).take placed.2) = space) =
        texts.zipIdx.filter fun placed => sectionBehind (texts.take placed.2) = space := by
    apply List.filter_congr
    intro placed hplaced
    have hlt := List.snd_lt_of_mem_zipIdx hplaced
    rw [List.take_append_of_le_length (by omega)]
  rw [linesIn, List.zipIdx_append, List.filter_append, List.map_append, hfront, ← linesIn]
  congr 1
  rw [List.zipIdx_singleton, List.filter_singleton, Nat.zero_add, List.take_left]
  by_cases hspace : space = sectionBehind texts
  · rw [if_pos hspace, decide_eq_true hspace.symm]
    rfl
  · rw [if_neg hspace, decide_eq_false (Ne.symm hspace)]
    rfl

end Source

/-! ## Markers -/

/-- A text without an ending is the text itself, or the ending has been taken off. -/
theorem Bytes.eq_of_dropEnding {s ending r : Bytes} (h : s.dropEnding ending = r) :
    s = r ∨ s = r ++ ending := by
  rw [dropEnding] at h
  split at h
  · rename_i hsuffix
    obtain ⟨front, rfl⟩ := List.isSuffixOf_iff_suffix.mp hsuffix
    rw [List.length_append, Nat.add_sub_cancel, List.take_left] at h
    exact Or.inr (by rw [h])
  · exact Or.inl h

/-- The code section starts at `.code`, with or without a colon. -/
theorem Body.ofText_eq_marker_code {rest : Bytes} :
    Body.ofText rest = .marker .code ↔
      rest = Bytes.ofString ".code" ∨ rest = Bytes.ofString ".code:" := by
  constructor
  · intro h
    rw [Body.ofText] at h
    split at h
    · cases h
    · split at h
      · rename_i s hs
        cases Body.marker.inj h
        -- markers are looked for in order, and the code marker is the second
        rw [Section.ofMarker?] at hs
        split at hs
        · exact absurd hs (by decide)
        · split at hs
          · rename_i hcode
            exact eq_of_dropEnding hcode
          · cases hs
      · cases h
  · rintro (rfl | rfl)
    · decide
    · decide

/-- The code section starts where the statement is its marker. -/
theorem Source.startsCode_iff {text : Bytes} :
    startsCode text = true ↔ Body.ofText (statement text) = .marker .code := by
  rw [startsCode, decide_eq_true_iff, Body.ofText_eq_marker_code]

/-- Behind a marker, lines are in the code section if they were before or it starts there. -/
theorem Section.enter_eq_ok {inCode inCode' : Bool} {m : Section}
    (h : Section.enter inCode m = .ok inCode') : inCode' = (inCode || decide (m = .code)) := by
  rw [Section.enter] at h
  split at h
  · rename_i hm
    rw [decide_eq_true hm, Bool.or_true]
    exact (Except.ok.inj h).symm
  · rename_i hm
    split at h
    · cases h
    · rename_i hin
      rw [decide_eq_false hm, Bool.eq_false_iff.mpr hin]
      exact (Except.ok.inj h).symm

/-! ## Where the first pass has arrived -/

namespace Layout

variable {l l' : Layout} {c : Config} {texts : List Bytes} {text : Bytes}

/-- Where the first pass has arrived in a section. -/
def next (l : Layout) (space : Section) : Int := if space = .code then l.codeNext else l.dataNext

/-- A label belongs to the section that lines are in. -/
theorem space_here_eq (l : Layout) : l.here.space = if l.inCode then .code else .data := by
  rw [here]
  cases l.inCode <;> rfl

/-- It stands at the next address of that section. -/
theorem here_eq (l : Layout) : l.here = ⟨l.next l.here.space, l.here.space⟩ := by
  rw [here]
  cases l.inCode <;> rfl

/-- What a body does to the first pass: it may lead into the code section, and it takes up its
    size in the section it stands in. -/
theorem advance_eq_ok {body : Body} (h : l.advance body = .ok l') :
    l'.inCode = (l.inCode || decide (body = .marker .code)) ∧
      ∃ n, body.sizeIn l.here.space = .ok n ∧
        ∀ space, space = .data ∨ space = .code →
          l'.next space = l.next space + if space = l.here.space then n else 0 := by
  cases body with
  | nothing =>
      cases Except.ok.inj h
      refine ⟨by simp, 0, rfl, fun space _ => ?_⟩
      simp
  | marker m =>
      -- a marker takes up no room, and can only lead into the code section
      obtain ⟨entered, henter, h⟩ := bind_eq_ok.mp h
      cases pure_eq_ok.mp h
      refine ⟨?_, 0, rfl, fun space _ => ?_⟩
      · simpa using Section.enter_eq_ok henter
      · rw [ite_self, Int.ofNat_zero, Int.add_zero]
        rfl
  | text text =>
      rw [advance] at h
      cases hin : l.inCode with
      | true =>
          -- an instruction moves the code address by its size
          rw [if_pos hin] at h
          cases Except.ok.inj h
          refine ⟨by simp [hin], codeSize text, ?_, ?_⟩
          · rw [space_here_eq, hin]
            rfl
          · rw [space_here_eq, hin]
            rintro space (rfl | rfl)
            · exact (Int.add_zero _).symm
            · rfl
      | false =>
          -- a directive moves the data address by its size
          rw [if_neg (by rw [hin]; exact Bool.false_ne_true)] at h
          obtain ⟨n, hsize, h⟩ := bind_eq_ok.mp h
          cases pure_eq_ok.mp h
          refine ⟨by simp [hin], n, ?_, ?_⟩
          · rw [space_here_eq, hin]
            exact hsize
          · rw [space_here_eq, hin]
            rintro space (rfl | rfl)
            · rfl
            · exact (Int.add_zero _).symm

/-- A label does not move the first pass. -/
theorem here_define (l : Layout) (label : Option Bytes) : (l.define label).here = l.here := by
  cases label <;> rfl

theorem next_define (l : Layout) (label : Option Bytes) (space : Section) :
    (l.define label).next space = l.next space := by
  cases label <;> rfl

theorem inCode_define (l : Layout) (label : Option Bytes) :
    (l.define label).inCode = l.inCode := by
  cases label <;> rfl

/-- The first pass behind some texts: in the section that they lead to, and in each section as
    far behind the base as the sizes of the section's lines add up to. -/
structure Arrived (c : Config) (texts : List Bytes) (l : Layout) : Prop where
  inCode : l.inCode = texts.any Source.startsCode
  next : ∀ space, space = .data ∨ space = .code →
    ∃ sizes, (Source.linesIn space texts).mapM (Source.sizeIn space) = .ok sizes ∧
      l.next space = c.base space + sizes.sum

/-- Both ways of telling the section agree. -/
theorem Arrived.space (h : Arrived c texts l) : l.here.space = Source.sectionBehind texts := by
  rw [space_here_eq, h.inCode]
  rfl

theorem Arrived.start (c : Config) : Arrived c [] (.start c) where
  inCode := rfl
  next := by
    rintro space (rfl | rfl)
    · exact ⟨[], rfl, (Int.add_zero _).symm⟩
    · exact ⟨[], rfl, (Int.add_zero _).symm⟩

/-- One more line. -/
theorem Arrived.step (h : Arrived c texts l) (hstep : l.step text.trim = .ok l') :
    Arrived c (texts ++ [text]) l' := by
  obtain ⟨st, hst, hadvance⟩ := bind_eq_ok.mp hstep
  have hbody : st.body = Body.ofText (Source.statement text) := by
    rw [Statement.eq_of_read hst]
    rfl
  -- the label of the line is defined before its body moves anything
  obtain ⟨hin, n, hsize, hnext⟩ := advance_eq_ok hadvance
  rw [hbody, here_define, h.space] at hsize
  constructor
  · rw [hin, inCode_define, h.inCode, List.any_append, hbody]
    have hmark : Source.startsCode text =
        decide (Body.ofText (Source.statement text) = .marker .code) := by
      rw [Bool.eq_iff_iff, Source.startsCode_iff, decide_eq_true_iff]
    simp [hmark]
  · intro space hspace
    obtain ⟨sizes, hsizes, hat⟩ := h.next space hspace
    rw [hnext space hspace, next_define, here_define, h.space, hat, Source.linesIn_concat]
    -- the line adds to the addresses of its own section only
    by_cases hhere : space = Source.sectionBehind texts
    · refine ⟨sizes ++ [n], ?_, ?_⟩
      · rw [if_pos hhere]
        refine mapM_eq_ok.mpr (List.rel_append (mapM_eq_ok.mp hsizes) ?_)
        exact List.Forall₂.cons (hhere ▸ hsize) List.Forall₂.nil
      · rw [if_pos hhere, List.sum_append, List.sum_singleton]
        omega
    · refine ⟨sizes, ?_, ?_⟩
      · rw [if_neg hhere, List.append_nil]
        exact hsizes
      · rw [if_neg hhere]
        exact Int.add_zero _

/-- A line with nothing on it is left out, and reading it would have changed nothing. -/
theorem step_of_run_ofText? {number : Nat} (h : l.run (SourceLine.ofText? number text).toList = .ok l') :
    l.step text.trim = .ok l' := by
  rw [SourceLine.ofText?] at h
  split at h
  · rename_i hnil
    cases foldlM_nil_eq_ok.mp h
    rw [hnil]
    rfl
  · obtain ⟨l₁, hstep, h⟩ := foldlM_cons_eq_ok.mp h
    cases foldlM_nil_eq_ok.mp h
    exact mapError_eq_ok.mp hstep

/-- **WHERE THE FIRST PASS ARRIVES.**  Behind any source that it accepts, it is where the source
    says. -/
theorem arrived_of_run (h : run (.start c) (SourceLine.ofTexts texts) = .ok l) :
    Arrived c texts l := by
  induction texts using List.reverseRecOn generalizing l with
  | nil =>
      cases foldlM_nil_eq_ok.mp h
      exact .start c
  | append_singleton texts text ih =>
      rw [SourceLine.ofTexts_eq, SourceLine.linesFrom_append, SourceLine.linesFrom_cons] at h
      obtain ⟨l₁, hfront, hlast⟩ := foldlM_append_eq_ok.mp h
      exact (ih hfront).step (step_of_run_ofText? ((List.append_nil _).symm ▸ hlast))

end Layout

/-! ## Which names are in the table -/

namespace LabelTable

variable {t : LabelTable} {name other : Bytes} {symbol : Symbol}

/-- The names of a table. -/
def names (t : LabelTable) : List Bytes := t.entries.map SymbolEntry.name

/-- Defining a name adds it to the names. -/
theorem mem_names_insert : name ∈ (t.insert other symbol).names ↔ name = other ∨ name ∈ t.names := by
  simp only [names, insert, List.map_cons, List.mem_cons, List.mem_map, List.mem_filter,
    decide_eq_true_iff]
  constructor
  · rintro (h | ⟨e, ⟨he, -⟩, rfl⟩)
    · exact Or.inl h
    · exact Or.inr ⟨e, he, rfl⟩
  · rintro (h | ⟨e, he, rfl⟩)
    · exact Or.inl h
    · by_cases hne : e.name = other
      · exact Or.inl hne
      · exact Or.inr ⟨e, ⟨he, hne⟩, rfl⟩

/-- No name comes twice. -/
theorem nodup_names_insert (h : t.names.Nodup) : (t.insert other symbol).names.Nodup := by
  refine List.nodup_cons.mpr ⟨?_, ?_⟩
  · intro hmem
    obtain ⟨e, he, hname⟩ := List.mem_map.mp hmem
    exact of_decide_eq_true (List.mem_filter.mp he).2 hname
  · exact h.sublist (List.filter_sublist.map _)

end LabelTable

namespace Config

variable {c : Config} {name : Bytes}

/-- The names that a configuration gives an address. -/
def names (c : Config) : List Bytes := (c.symbols.getD []).map Prod.fst

/-- The address that a configuration gives a name; of several, the last. -/
def address? (c : Config) (name : Bytes) : Option (BitVec 16) :=
  ((c.symbols.getD []).findRev? fun entry => entry.1 = name).map Prod.snd

/-- The entry of the first table for a name and its address. -/
def entry (placed : Bytes × BitVec 16) : SymbolEntry := ⟨placed.1, ⟨placed.2.toNat, .absolute⟩⟩

/-- The first table grows entry by entry. -/
theorem labelsOf_concat (placed : List (Bytes × BitVec 16)) (last : Bytes × BitVec 16) :
    LabelTable.ofList ((placed ++ [last]).map entry) =
      (LabelTable.ofList (placed.map entry)).insert last.1 (entry last).symbol := by
  rw [List.map_append, LabelTable.ofList, List.foldl_append]
  rfl

theorem labels_eq (c : Config) : c.labels = .ofList ((c.symbols.getD []).map entry) := rfl

/-- What a name stands for before any line is read. -/
theorem find?_labels (c : Config) (name : Bytes) :
    c.labels.find? name = (c.address? name).map fun a => ⟨a.toNat, .absolute⟩ := by
  rw [labels_eq, address?]
  induction c.symbols.getD [] using List.reverseRecOn with
  | nil => rfl
  | append_singleton placed last ih =>
      rw [labelsOf_concat, List.findRev?_eq_find?_reverse, List.reverse_append,
        List.reverse_singleton, List.singleton_append, List.find?_cons]
      by_cases hlast : last.1 = name
      · rw [decide_eq_true hlast, hlast, LabelTable.find?_insert_self]
        rfl
      · rw [decide_eq_false hlast, LabelTable.find?_insert_of_ne hlast, ih,
          List.findRev?_eq_find?_reverse]

/-- The table of a configuration has the names that it gives. -/
theorem mem_names_labels : name ∈ c.labels.names ↔ name ∈ c.names := by
  rw [labels_eq, names]
  induction c.symbols.getD [] using List.reverseRecOn with
  | nil => exact Iff.rfl
  | append_singleton placed last ih =>
      rw [labelsOf_concat, LabelTable.mem_names_insert, ih, List.map_append, List.mem_append,
        List.map_singleton, List.mem_singleton]
      exact or_comm

/-- It has each of them once. -/
theorem nodup_names_labels (c : Config) : c.labels.names.Nodup := by
  rw [labels_eq]
  induction c.symbols.getD [] using List.reverseRecOn with
  | nil => exact List.nodup_nil
  | append_singleton placed last ih =>
      rw [labelsOf_concat]
      exact LabelTable.nodup_names_insert ih

end Config

namespace Layout

variable {l l' : Layout} {c : Config} {texts : List Bytes} {name : Bytes}

/-- A run adds the labels of its lines to the names, and nothing else. -/
theorem mem_names_of_run {lines : List SourceLine} (h : l.run lines = .ok l') :
    name ∈ l'.labels.names ↔
      name ∈ l.labels.names ∨ ∃ line ∈ lines, (Label.split line.text).1 = some name := by
  induction lines generalizing l with
  | nil =>
      cases foldlM_nil_eq_ok.mp h
      simp
  | cons line lines ih =>
      obtain ⟨l₁, hstep, h⟩ := foldlM_cons_eq_ok.mp h
      rw [ih h, labels_of_step (mapError_eq_ok.mp hstep), List.exists_mem_cons_iff]
      cases hlabel : (Label.split line.text).1 with
      | none => simp [define]
      | some other =>
          rw [define, LabelTable.mem_names_insert, Option.some.injEq, @eq_comm _ name]
          tauto

/-- So does the table behind any lines. -/
theorem nodup_names_of_run {lines : List SourceLine} (h : l.run lines = .ok l')
    (hl : l.labels.names.Nodup) : l'.labels.names.Nodup := by
  induction lines generalizing l with
  | nil =>
      cases foldlM_nil_eq_ok.mp h
      exact hl
  | cons line lines ih =>
      obtain ⟨l₁, hstep, h⟩ := foldlM_cons_eq_ok.mp h
      refine ih h ?_
      rw [labels_of_step (mapError_eq_ok.mp hstep)]
      cases (Label.split line.text).1 with
      | none => exact hl
      | some other => exact LabelTable.nodup_names_insert hl

/-- A name that a text defines, and no later one, stands for where the first pass had arrived. -/
theorem find?_of_last {k : Nat} {text : Bytes}
    (h : run (.start c) (SourceLine.ofTexts texts) = .ok l') (htext : texts[k]? = some text)
    (hname : Source.label? text = some name)
    (hlast : ∀ j text', k < j → texts[j]? = some text' → Source.label? text' ≠ some name) :
    ∃ l, Arrived c (texts.take k) l ∧ l'.labels.find? name = some l.here := by
  rw [SourceLine.ofTexts_take texts k] at h
  obtain ⟨l, hfront, hbehind⟩ := foldlM_append_eq_ok.mp h
  rw [SourceLine.linesBehind_eq_cons htext (Source.trim_ne_nil_of_label? hname)] at hbehind
  refine ⟨l, arrived_of_run hfront, find?_of_run_cons hbehind hname ?_⟩
  intro line hline
  obtain ⟨j, text', hj, htext', heq⟩ := SourceLine.exists_text_of_mem_behind hline
  rw [heq]
  exact hlast j text' hj htext'

end Layout

/-- The labels of the lines are those of the texts they come from. -/
theorem SourceLine.exists_label_iff {texts : List Bytes} {name : Bytes} :
    (∃ line ∈ ofTexts texts, (Label.split line.text).1 = some name) ↔
      ∃ text ∈ texts, Source.label? text = some name := by
  constructor
  · rintro ⟨line, hline, hname⟩
    obtain ⟨-, text, hget, heq⟩ := getElem?_of_mem hline
    rw [heq] at hname
    exact ⟨text, List.mem_of_getElem? hget, hname⟩
  · rintro ⟨text, htext, hname⟩
    obtain ⟨k, hk⟩ := List.mem_iff_getElem?.mp htext
    refine ⟨⟨k + 1, text.trim⟩, ?_, hname⟩
    rw [ofTexts_take texts k, linesBehind_eq_cons hk (Source.trim_ne_nil_of_label? hname)]
    exact List.mem_append_right _ List.mem_cons_self

/-- **THE TABLE IS THE DECLARED ONE.**  The names of a resolved table are those of the
    configuration and the labels of the source, each once.  A name with a definition stands for
    the place of the last one: in the code section if an earlier line marks its start and in the
    data section otherwise, at the base of the section and the sizes of the section's earlier
    lines.  Any other name stands for what the configuration gives it. -/
theorem resolve_declared (c : Config) (texts : List Bytes) (t : LabelTable)
    (h : Layout.resolve c (SourceLine.ofTexts texts) = .ok t) :
    t.names.Nodup ∧
    (∀ name, name ∈ t.names ↔ name ∈ c.names ∨ ∃ text ∈ texts, Source.label? text = some name) ∧
    (∀ name k text, texts[k]? = some text → Source.label? text = some name →
      (∀ j text', k < j → texts[j]? = some text' → Source.label? text' ≠ some name) →
      ∃ (space : Section) (sizes : List Nat),
        space = Source.sectionBehind (texts.take k) ∧
        (Source.linesIn space (texts.take k)).mapM (Source.sizeIn space) = .ok sizes ∧
        t.find? name = some ⟨c.base space + sizes.sum, space⟩) ∧
    (∀ name, (∀ text ∈ texts, Source.label? text ≠ some name) →
      t.find? name = (c.address? name).map fun a => ⟨a.toNat, .absolute⟩) := by
  obtain ⟨l', hrun, rfl⟩ := map_eq_ok.mp h
  refine ⟨?_, ?_, ?_, ?_⟩
  · exact Layout.nodup_names_of_run hrun c.nodup_names_labels
  · intro name
    rw [Layout.mem_names_of_run hrun, SourceLine.exists_label_iff]
    exact or_congr_left Config.mem_names_labels
  · intro name k text htext hname hlast
    obtain ⟨l, harrived, hfind⟩ := Layout.find?_of_last hrun htext hname hlast
    obtain ⟨sizes, hsizes, hnext⟩ := harrived.next l.here.space l.space_here
    refine ⟨l.here.space, sizes, harrived.space, hsizes, ?_⟩
    rw [hfind, l.here_eq, hnext]
  · intro name hnone
    rw [Layout.find?_of_run hrun, ← c.find?_labels]
    · rfl
    · intro line hline hname
      obtain ⟨text, htext, hlabel⟩ := SourceLine.exists_label_iff.mp ⟨line, hline, hname⟩
      exact hnone text htext hlabel

/-- A configuration with a label that the source defines and one that it does not. -/
def portConfig : Config :=
  ⟨0x100, 0x200, some [(Bytes.ofString "port", 0x10), (Bytes.ofString "b", 7)]⟩

/-- A source that defines a label in each section, and one in front of the marker. -/
def portSource : List Bytes :=
  ["a: .byte 1", "", "b: .code:", "MOVI ax 5", "a:", "c: nop"].map Bytes.ofString

/-- What its labels stand for: `b` is still data, and `a` is where it was defined last. -/
def portTable : LabelTable :=
  ⟨[⟨Bytes.ofString "c", ⟨0x204, .code⟩⟩, ⟨Bytes.ofString "a", ⟨0x204, .code⟩⟩,
    ⟨Bytes.ofString "b", ⟨0x101, .data⟩⟩, ⟨Bytes.ofString "port", ⟨0x10, .absolute⟩⟩]⟩

theorem resolve_declared_portSource :
    Layout.resolve portConfig (SourceLine.ofTexts portSource) = .ok portTable ∧
    (∃ sizes : List Nat,
      (Source.linesIn .code (portSource.take 4)).mapM (Source.sizeIn .code) = .ok sizes ∧
      portTable.find? (Bytes.ofString "a") = some ⟨0x200 + sizes.sum, .code⟩) ∧
    portTable.find? (Bytes.ofString "port") = some ⟨0x10, .absolute⟩ := by
  have hresolve : Layout.resolve portConfig (SourceLine.ofTexts portSource) = .ok portTable := rfl
  obtain ⟨-, -, hdefined, hother⟩ := resolve_declared portConfig portSource portTable hresolve
  refine ⟨hresolve, ?_, hother (Bytes.ofString "port") (by decide)⟩
  have hlast : ∀ j text', 4 < j → portSource[j]? = some text' →
      Source.label? text' ≠ some (Bytes.ofString "a") := by
    intro j text' hj htext'
    have hlt : j < 6 := (List.getElem?_eq_some_iff.mp htext').1
    obtain rfl : j = 5 := by omega
    cases htext'
    decide
  obtain ⟨space, sizes, hspace, hsizes, hfind⟩ :=
    hdefined (Bytes.ofString "a") 4 (Bytes.ofString "a:") rfl rfl hlast
  cases hspace.trans (show Source.sectionBehind (portSource.take 4) = .code from rfl)
  exact ⟨sizes, hsizes, hfind⟩

end TwoPass
