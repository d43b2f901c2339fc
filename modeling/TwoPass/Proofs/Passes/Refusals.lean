import TwoPass.Proofs.Passes.Declarations
import TwoPass.Proofs.Passes.Locations
import TwoPass.Proofs.Source.Faults

/-!
# Refusals — what is left for the second pass to refuse

The first pass has looked at labels, markers, keywords and quotes before the second starts.
The second looks at all of them again, on text whose references are filled in, and finds
nothing new there: it reads the same statements in the same sections, and filling in keeps
the keyword of a directive and the number of its words.  `Fault.Late` lists what it can
still refuse.
-/

namespace TwoPass

open Bytes

/-- The kinds of fault that the first pass looks for. -/
def FaultKind.early : List FaultKind :=
  [labelInvalid, sectionOrder, directiveUnknown, directiveSyntax]

namespace Fault

/-- What the second pass can find wrong with a statement that the first has accepted. -/
inductive Late (statement : Bytes) : Fault → Prop
  | reference (name : Bytes) : Late statement (.labelUnknown name)
  | values {kind : Directive.Kind} {values : List Bytes} {f : Fault}
      (hwords : statement.words = kind.keyword :: values) (h : OfValues kind values f) :
      Late statement f
  | instruction {f : Fault} (h : OfInstruction f) : Late statement f
  | rule (i : Instruction) {cause : Fault} (h : OfRule cause) : Late statement (.illegal i cause)

/-- A fault that is of none of the early kinds, in no part of it. -/
def IsLate (f : Fault) : Prop := ∀ kind ∈ FaultKind.early, kind ∉ f.chain

theorem OfNumber.isLate {f : Fault} (h : OfNumber f) : f.IsLate := by
  cases h <;> simp [IsLate, FaultKind.early]

theorem OfInstruction.isLate {f : Fault} (h : OfInstruction f) : f.IsLate := by
  cases h with
  | number h => exact h.isLate
  | _ => simp [IsLate, FaultKind.early]

theorem OfRule.isLate {f : Fault} (h : OfRule f) : f.IsLate := by
  cases h <;> simp [IsLate, FaultKind.early]

/-- A fault that names what it is about is of a kind of its own, which is no early one. -/
theorem IsLate.illegal {f : Fault} (h : f.IsLate) (i : Instruction) : (Fault.illegal i f).IsLate := by
  intro kind hkind hmem
  rcases List.mem_cons.mp hmem with rfl | hmem
  · revert hkind
    decide
  · exact h kind hkind hmem

/-- A line number adds no fault of the first pass. -/
theorem mem_chain_atLine {number : Int} {line : Bytes} {cause : Fault} {kind : FaultKind}
    (hkind : kind ∈ FaultKind.early) :
    kind ∈ (Fault.atLine number line cause).chain ↔ kind ∈ cause.chain := by
  rw [chain, List.mem_cons, or_iff_right]
  rintro rfl
  revert hkind
  decide

/-- The one early kind that a late fault can have is the wrong number of values. -/
theorem Late.isLate_or {statement : Bytes} {f : Fault} (h : Late statement f) :
    f.IsLate ∨ f = .directiveSyntax ∧ ∃ kind ∈ [Directive.Kind.byte, .word, .long],
      statement.words.head? = some kind.keyword ∧ statement.words.length ≠ 2 := by
  cases h with
  | reference name => exact Or.inl (by simp [IsLate, FaultKind.early])
  | @values kind values f hwords h =>
      cases h with
      | number h => exact Or.inl h.isLate
      | count hkind hvalues =>
          refine Or.inr ⟨rfl, kind, hkind, ?_, ?_⟩
          · rw [hwords]
            rfl
          · rw [hwords, List.length_cons]
            omega
  | instruction h => exact Or.inl h.isLate
  | rule i h => exact Or.inl (h.isLate.illegal i)

end Fault

/-- **WHAT IS LEFT TO REFUSE.**  A line that the first pass accepts is refused by the second, in
    the same section, only for a late fault. -/
theorem Emission.late_of_step {l l' : Layout} {labels : LabelTable} {line : Bytes} {f : Fault}
    (htrim : Trimmed line) (hlayout : l.step line = .ok l')
    (h : ofLine labels l.inCode line = .error f) : Fault.Late (Label.split line).2 f := by
  obtain ⟨st, hst, hadvance⟩ := bind_eq_ok.mp hlayout
  rw [ofLine_of_read hst] at h
  have hin : (l.define st.label).inCode = l.inCode := by
    cases st.label <;> rfl
  -- the first pass has read the same statement, so only its body can still be refused
  cases hbody : st.body with
  | nothing =>
      rw [hbody] at h
      cases h
  | marker m =>
      rw [hbody] at h hadvance
      -- the first pass has entered the section from where the second stands
      obtain ⟨entered, henter, -⟩ := bind_eq_ok.mp hadvance
      rw [hin] at henter
      cases henter.symm.trans (map_eq_error.mp h)
  | text text =>
      have htext := Statement.text_of_read hst hbody
      rw [hbody] at h hadvance
      have hemits : ofText labels l.inCode text = .error f := map_eq_error.mp h
      rw [Layout.advance, hin] at hadvance
      cases hcode : l.inCode with
      | false =>
          rw [hcode] at hemits hadvance
          -- a directive has been sized, so its keyword and the number of its values are in order
          obtain ⟨n, hsize, -⟩ := bind_eq_ok.mp hadvance
          have hread : (fill labels false text >>= Directive.read) = .error f := by
            rw [ofText_data] at hemits
            rcases bind_eq_error.mp hemits with hfill | ⟨filled, hfill, hread⟩
            · exact bind_eq_error.mpr (Or.inl hfill)
            · exact bind_eq_error.mpr (Or.inr ⟨filled, hfill, map_eq_error.mp hread⟩)
          rcases Directive.fill_read_eq_error (htext ▸ Label.trimmed_split htrim) hsize hread with
            ⟨name, rfl⟩ | ⟨kind, values, hwords, hvalues⟩
          · exact .reference name
          · exact .values (htext ▸ hwords) hvalues
      | true =>
          -- an instruction has only been looked at for its mnemonic: all its faults are late
          rw [hcode, ofText_code] at hemits
          rcases bind_eq_error.mp hemits with hfill | ⟨filled, -, hread⟩
          · obtain ⟨name, rfl⟩ := fill_eq_error hfill
            exact .reference name
          · rcases bind_eq_error.mp (map_eq_error.mp hread) with hread | ⟨i, -, hlegal⟩
            · exact .instruction (Instruction.failsOnly_read filled f hread)
            · rcases bind_eq_error.mp hlegal with hlegal | ⟨_, -, hdone⟩
              · obtain ⟨cause, rfl, hrule⟩ := Instruction.validate_eq_error hlegal
                exact .rule i hrule
              · cases hdone

/-- **THE SECOND PASS REFUSES NOTHING TWICE.**  Behind a first pass that succeeds, the second
    never finds an invalid label, a section out of order or an unknown directive, and it finds
    the syntax of a directive wrong only on a line of `.byte`, `.word` or `.long` whose
    statement is not of exactly two words. -/
theorem program_refused (c : Config) (texts : List Bytes) (labels : LabelTable) (f : Fault)
    (hresolve : Layout.resolve c (SourceLine.ofTexts texts) = .ok labels)
    (h : Assembly.program c labels (SourceLine.ofTexts texts) = .error f) :
    FaultKind.labelInvalid ∉ f.chain ∧ FaultKind.sectionOrder ∉ f.chain ∧
    FaultKind.directiveUnknown ∉ f.chain ∧
    (FaultKind.directiveSyntax ∈ f.chain →
      ∃ (k : Nat) (text : Bytes), 1 ≤ k ∧ texts[k - 1]? = some text ∧
        f = .atLine k text.trim .directiveSyntax ∧
        ∃ kind ∈ [Directive.Kind.byte, .word, .long],
          (Source.statement text).words.head? = some kind.keyword ∧
          (Source.statement text).words.length ≠ 2) := by
  obtain ⟨k, text, cause, rfl, hstops⟩ := Assembly.exists_stopsAt h
  obtain ⟨s, hbefore, hline⟩ := hstops.refused
  obtain ⟨cause', hstep, hcause⟩ := mapError_eq_error.mp hline
  cases hcause
  -- the first pass has come to the same line in the same section, and accepts it
  obtain ⟨l', hlayout, -⟩ := map_eq_ok.mp hresolve
  rw [SourceLine.ofTexts_take texts k, hstops.ofTexts_take] at hlayout
  obtain ⟨l₂, hlayout, -⟩ := foldlM_append_eq_ok.mp hlayout
  obtain ⟨l, hfront, hlast⟩ := foldlM_append_eq_ok.mp hlayout
  rw [foldlM_singleton] at hlast
  have hsync : Synchronised l s :=
    (Synchronised.start c).run (fun line => SourceLine.trimmed_of_mem) hfront hbefore
  have hreading := Assembly.ofLine_of_step_error hstep
  rw [← hsync.inCode] at hreading
  have hlate : Fault.Late (Source.statement text) cause :=
    Emission.late_of_step (trimmed_trim text) (mapError_eq_ok.mp hlast) hreading
  rcases hlate.isLate_or with hearly | ⟨rfl, hvalues⟩
  · have habsent : ∀ kind ∈ FaultKind.early,
        kind ∉ (Fault.atLine k text.trim cause).chain := fun kind hkind hmem =>
      hearly kind hkind ((Fault.mem_chain_atLine hkind).mp hmem)
    refine ⟨habsent _ (by decide), habsent _ (by decide), habsent _ (by decide), fun hsyntax => ?_⟩
    exact absurd hsyntax (habsent _ (by decide))
  · refine ⟨?_, ?_, ?_, fun _ => ⟨k, text, hstops.pos, hstops.getElem?, rfl, hvalues⟩⟩
    all_goals
      rw [Fault.mem_chain_atLine (by decide)]
      decide

/-- A source that the first pass accepts, with one number too many on its second line. -/
def overfullSource : List Bytes :=
  ["a: .asciiz \x60@nowhere\x60", "  b: .word @b 7", ".code:", "nop nop"].map Bytes.ofString

/-- The labels of the source. -/
def overfullTable : LabelTable :=
  ⟨[⟨Bytes.ofString "b", ⟨0x9009, .data⟩⟩, ⟨Bytes.ofString "a", ⟨0x9000, .data⟩⟩]⟩

/-- The fault of the second line. -/
def overfullFault : Fault := .atLine 2 (Bytes.ofString "b: .word @b 7") .directiveSyntax

theorem program_refused_overfullSource :
    Layout.resolve .default (SourceLine.ofTexts overfullSource) = .ok overfullTable ∧
    Assembly.program .default overfullTable (SourceLine.ofTexts overfullSource) =
      .error overfullFault ∧
    FaultKind.directiveUnknown ∉ overfullFault.chain ∧
    ∃ text, overfullSource[1]? = some text ∧
      ∃ kind ∈ [Directive.Kind.byte, .word, .long],
        (Source.statement text).words.head? = some kind.keyword ∧
        (Source.statement text).words.length ≠ 2 := by
  have hresolve : Layout.resolve .default (SourceLine.ofTexts overfullSource) =
      .ok overfullTable := by decide +kernel
  have hprogram : Assembly.program .default overfullTable (SourceLine.ofTexts overfullSource) =
      .error overfullFault := by decide +kernel
  obtain ⟨-, -, hdirective, hsyntax⟩ :=
    program_refused .default overfullSource overfullTable overfullFault hresolve hprogram
  obtain ⟨k, text, -, htext, hfault, hvalues⟩ := hsyntax (by decide)
  obtain rfl : 2 = k := Int.ofNat.inj (Fault.atLine.inj hfault).1
  exact ⟨hresolve, hprogram, hdirective, text, htext, hvalues⟩

end TwoPass
