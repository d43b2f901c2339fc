import Mathlib.Data.List.Induction
import TwoPass.Proofs.Failure
import TwoPass.Proofs.Passes.Lockstep

/-!
# Locations — at which line a source is refused

Both passes go over the lines of a source in order, and so does the reading of lines alone.
`StopsAt` says what it means that such a walk ends at a line: it accepts the lines before and
refuses this one.  A walk that fails stops somewhere (`exists_stopsAt`), what stands behind does
not matter (`StopsAt.append`), and the place is the first at which it could have stopped
(`StopsAt.fails_iff`).  Numbers are positions in the source as it was given, although lines with
nothing on them are never looked at.
-/

namespace TwoPass

open Bytes

/-! ## Walks over the lines of a source -/

namespace SourceLine

variable {σ ε : Type} {g : σ → SourceLine → Except ε σ} {s : σ} {texts : List Bytes} {k : Nat}
  {text : Bytes} {e : ε}

/-- The lines of more text are numbered behind those before. -/
theorem ofTexts_append (texts more : List Bytes) :
    ofTexts (texts ++ more) = ofTexts texts ++ linesFrom (1 + texts.length) more :=
  linesFrom_append 1 texts more

/-- One more text is one more line, if there is something on it. -/
theorem ofTexts_concat (texts : List Bytes) (text : Bytes) :
    ofTexts (texts ++ [text]) = ofTexts texts ++ (ofText? (texts.length + 1) text).toList := by
  rw [ofTexts_append, linesFrom_cons, Nat.add_comm 1]
  exact congrArg _ (List.append_nil _)

/-- The beginnings of a source grow. -/
theorem take_eq_append {j k : Nat} (h : j ≤ k) (texts : List Bytes) :
    texts.take k = texts.take j ++ (texts.take k).drop j := by
  have hcut := List.take_append_drop j (texts.take k)
  rw [List.take_take, Nat.min_eq_left h] at hcut
  exact hcut.symm

/-- A walk over the lines of a source that ends at a line: the lines before are accepted, and
    this one, which is not empty, is refused. -/
structure StopsAt (g : σ → SourceLine → Except ε σ) (s : σ) (texts : List Bytes) (k : Nat)
    (text : Bytes) (e : ε) : Prop where
  pos : 1 ≤ k
  getElem? : texts[k - 1]? = some text
  filled : text.trim ≠ []
  refused : ∃ t, (ofTexts (texts.take (k - 1))).foldlM g s = .ok t ∧
    g t ⟨k, text.trim⟩ = .error e

namespace StopsAt

theorem le (h : StopsAt g s texts k text e) : k ≤ texts.length := by
  have hlt := (List.getElem?_eq_some_iff.mp h.getElem?).1
  have hpos := h.pos
  omega

/-- The line that is refused is the next one behind those that were accepted. -/
theorem ofTexts_take (h : StopsAt g s texts k text e) :
    ofTexts (texts.take k) = ofTexts (texts.take (k - 1)) ++ [⟨k, text.trim⟩] := by
  have htake : texts.take k = texts.take (k - 1) ++ [text] := by
    have hsucc := List.take_add_one (l := texts) (i := k - 1)
    rw [h.getElem?, Nat.sub_add_cancel h.pos] at hsucc
    exact hsucc
  have hlength : (texts.take (k - 1)).length + 1 = k := by
    have hle := h.le
    have hpos := h.pos
    rw [List.length_take]
    omega
  rw [htake, ofTexts_concat, hlength, ofText?, if_neg h.filled]
  rfl

/-- What stands behind the refused line does not matter. -/
theorem append (h : StopsAt g s texts k text e) (others : List Bytes) :
    (ofTexts (texts.take k ++ others)).foldlM g s = .error e := by
  obtain ⟨t, hbefore, hline⟩ := h.refused
  have hstops : (ofTexts (texts.take k)).foldlM g s = .error e := by
    rw [h.ofTexts_take, foldlM_append_eq_error]
    exact Or.inr ⟨t, hbefore, foldlM_singleton.trans hline⟩
  rw [ofTexts_append]
  exact foldlM_append_eq_error.mpr (Or.inl hstops)

/-- The walk fails exactly on beginnings of the source that reach the refused line. -/
theorem fails_iff (h : StopsAt g s texts k text e) (j : Nat) :
    (∃ e', (ofTexts (texts.take j)).foldlM g s = .error e') ↔ k ≤ j := by
  constructor
  · rintro ⟨e', hfails⟩
    by_contra hlt
    -- a shorter beginning is part of what was accepted
    obtain ⟨t, hbefore, -⟩ := h.refused
    rw [take_eq_append (show j ≤ k - 1 by omega) texts, ofTexts_append] at hbefore
    obtain ⟨t', hfront, -⟩ := foldlM_append_eq_ok.mp hbefore
    cases hfails.symm.trans hfront
  · intro hle
    rw [take_eq_append hle texts]
    exact ⟨e, h.append _⟩

end StopsAt

/-- **WHERE A WALK STOPS.**  A walk over a source that fails stops at one of its lines. -/
theorem exists_stopsAt (h : (ofTexts texts).foldlM g s = .error e) :
    ∃ k text, StopsAt g s texts k text e := by
  induction texts using List.reverseRecOn with
  | nil => cases h
  | append_singleton texts last ih =>
      rw [ofTexts_concat] at h
      rcases foldlM_append_eq_error.mp h with hfront | ⟨t, hfront, hlast⟩
      · -- it stops in front of the last line
        obtain ⟨k, text, hstops⟩ := ih hfront
        have hle := hstops.le
        have hpos := hstops.pos
        have htake : (texts ++ [last]).take (k - 1) = texts.take (k - 1) :=
          List.take_append_of_le_length (by omega)
        refine ⟨k, text, hpos, ?_, hstops.filled, ?_⟩
        · rw [List.getElem?_append_left (by omega)]
          exact hstops.getElem?
        · rw [htake]
          exact hstops.refused
      · -- it stops at the last line, which therefore is not blank
        rw [ofText?] at hlast
        split at hlast
        · cases hlast
        · rename_i hfilled
          have hlength : texts.length + 1 - 1 = texts.length := rfl
          refine ⟨texts.length + 1, last, Nat.le_add_left 1 _, ?_, hfilled, t, ?_, ?_⟩
          · rw [hlength, List.getElem?_concat_length]
          · rw [hlength, List.take_left]
            exact hfront
          · exact foldlM_singleton.symm.trans hlast

end SourceLine

/-! ## The two passes as walks -/

/-- Whether the line behind some lines is in the code section, if all of them can be read in
    order with a label table. -/
def Emission.inCodeBehind (labels : LabelTable) (lines : List SourceLine) : Except Fault Bool :=
  lines.foldlM (fun inCode line => (ofLine labels inCode line.text).map Prod.fst) false

namespace Assembly

variable {labels : LabelTable} {s s' : Assembly} {line : SourceLine} {f : Fault}

/-- The second pass leaves a line in the section that the reading of the line says. -/
theorem ofLine_of_step (h : s.step labels line = .ok s') :
    ∃ emission, Emission.ofLine labels s.inCode line.text = .ok (s'.inCode, emission) := by
  obtain ⟨⟨inCode, emission⟩, hline, -⟩ := bind_eq_ok.mp h
  rw [step_of_ofLine hline] at h
  cases h
  refine ⟨emission, ?_⟩
  cases emission with
  | none => exact hline
  | some e => cases e <;> exact hline

/-- The second pass refuses a line for the fault that its reading finds. -/
theorem ofLine_of_step_error (h : s.step labels line = .error f) :
    Emission.ofLine labels s.inCode line.text = .error f := by
  cases hline : Emission.ofLine labels s.inCode line.text with
  | error f' =>
      rw [step, hline] at h
      exact congrArg Except.error (Except.error.inj h)
  | ok r =>
      rw [step_of_ofLine hline] at h
      cases h

/-- The second pass reads its lines in order. -/
theorem inCode_of_run {lines : List SourceLine} (h : run labels s lines = .ok s') :
    lines.foldlM (fun inCode line => (Emission.ofLine labels inCode line.text).map Prod.fst) s.inCode
      = .ok s'.inCode := by
  induction lines generalizing s with
  | nil =>
      cases foldlM_nil_eq_ok.mp h
      rfl
  | cons line lines ih =>
      obtain ⟨t, hstep, hrest⟩ := foldlM_cons_eq_ok.mp h
      obtain ⟨emission, hline⟩ := ofLine_of_step (mapError_eq_ok.mp hstep)
      exact foldlM_cons_eq_ok.mpr ⟨t.inCode, map_eq_ok.mpr ⟨_, hline, rfl⟩, ih hrest⟩

end Assembly

variable {c : Config} {texts : List Bytes} {labels : LabelTable} {f : Fault}

/-- The first pass stops at a line, whose number and text its fault gives. -/
theorem Layout.exists_stopsAt (h : resolve c (SourceLine.ofTexts texts) = .error f) :
    ∃ (k : Nat) (text : Bytes) (cause : Fault), f = .atLine k text.trim cause ∧
      SourceLine.StopsAt
        (fun l line => (Layout.step l line.text).mapError (.atLine line.number line.text)) (start c)
        texts k text f := by
  obtain ⟨k, text, hstops⟩ := SourceLine.exists_stopsAt (map_eq_error.mp h)
  obtain ⟨l, -, hline⟩ := hstops.refused
  obtain ⟨cause, -, rfl⟩ := mapError_eq_error.mp hline
  exact ⟨k, text, cause, rfl, hstops⟩

/-- The second pass stops at a line, whose number and text its fault gives. -/
theorem Assembly.exists_stopsAt (h : program c labels (SourceLine.ofTexts texts) = .error f) :
    ∃ (k : Nat) (text : Bytes) (cause : Fault), f = .atLine k text.trim cause ∧
      SourceLine.StopsAt
        (fun s line => (Assembly.step labels s line).mapError (.atLine line.number line.text))
        (start c) texts k text f := by
  have hrun : run labels (start c) (SourceLine.ofTexts texts) = .error f := by
    rcases bind_eq_error.mp h with hrun | ⟨s, -, hdone⟩
    · exact hrun
    · cases hdone
  obtain ⟨k, text, hstops⟩ := SourceLine.exists_stopsAt hrun
  obtain ⟨s, -, hline⟩ := hstops.refused
  obtain ⟨cause, -, rfl⟩ := mapError_eq_error.mp hline
  exact ⟨k, text, cause, rfl, hstops⟩

/-- Where the second pass stops, a line cannot be read behind the lines before it. -/
theorem SourceLine.StopsAt.reading {k : Nat} {text : Bytes} {cause : Fault}
    (h : StopsAt
      (fun s line => (Assembly.step labels s line).mapError (Fault.atLine line.number line.text))
      (.start c) texts k text (.atLine k text.trim cause)) :
    StopsAt (fun inCode line => (Emission.ofLine labels inCode line.text).map Prod.fst) false
      texts k text cause := by
  obtain ⟨s, hbefore, hline⟩ := h.refused
  obtain ⟨cause', hstep, hcause⟩ := mapError_eq_error.mp hline
  cases hcause
  refine ⟨h.pos, h.getElem?, h.filled, s.inCode, Assembly.inCode_of_run hbefore, ?_⟩
  exact map_eq_error.mpr (Assembly.ofLine_of_step_error hstep)

/-- A source is refused by the first pass, or by the second with the labels of the first. -/
theorem assemble_eq_error :
    assemble c texts = .error f ↔
      Layout.resolve c (SourceLine.ofTexts texts) = .error f ∨
      ∃ labels, Layout.resolve c (SourceLine.ofTexts texts) = .ok labels ∧
        Assembly.program c labels (SourceLine.ofTexts texts) = .error f :=
  bind_eq_error

/-- **WHERE A SOURCE IS REFUSED.**  A fault of the assembler names a line of the source, by its
    position and its trimmed text, with a cause.  If the first pass fails, the line is the first
    one that it does not get past; neither pass then depends on what stands behind this line, nor
    does it matter whether an earlier line would be refused by the second pass.  Otherwise the
    line is the first one that cannot be read with the complete label table, in the section that
    the lines before it lead to. -/
theorem assemble_refused (c : Config) (texts : List Bytes) (f : Fault)
    (h : assemble c texts = .error f) :
    ∃ (k : Nat) (text : Bytes) (cause : Fault),
      1 ≤ k ∧ k ≤ texts.length ∧ texts[k - 1]? = some text ∧ f = .atLine k text.trim cause ∧
      ((∃ g, Layout.resolve c (SourceLine.ofTexts texts) = .error g) →
        (∀ j, (∃ g, Layout.resolve c (SourceLine.ofTexts (texts.take j)) = .error g) ↔ k ≤ j) ∧
        ∀ others, Layout.resolve c (SourceLine.ofTexts (texts.take k ++ others)) = .error f ∧
          assemble c (texts.take k ++ others) = .error f) ∧
      (∀ labels, Layout.resolve c (SourceLine.ofTexts texts) = .ok labels →
        (∀ j, (∃ g, Emission.inCodeBehind labels (SourceLine.ofTexts (texts.take j)) = .error g) ↔
          k ≤ j) ∧
        ∃ inCode, Emission.inCodeBehind labels (SourceLine.ofTexts (texts.take (k - 1))) = .ok inCode ∧
          Emission.ofLine labels inCode text.trim = .error cause) := by
  rcases assemble_eq_error.mp h with hfirst | ⟨labels, hresolve, hsecond⟩
  · -- the first pass stops, and there is no label table
    obtain ⟨k, text, cause, hf, hstops⟩ := Layout.exists_stopsAt hfirst
    refine ⟨k, text, cause, hstops.pos, hstops.le, hstops.getElem?, hf, fun _ => ⟨?_, ?_⟩, ?_⟩
    · intro j
      rw [← hstops.fails_iff j]
      exact exists_congr fun g => map_eq_error
    · intro others
      have hothers : Layout.resolve c (SourceLine.ofTexts (texts.take k ++ others)) = .error f :=
        map_eq_error.mpr (hstops.append others)
      exact ⟨hothers, assemble_eq_error.mpr (Or.inl hothers)⟩
    · intro labels hresolve
      cases hfirst.symm.trans hresolve
  · -- the second pass stops, with the one table that the first has given
    obtain ⟨k, text, cause, rfl, hstops⟩ := Assembly.exists_stopsAt hsecond
    refine ⟨k, text, cause, hstops.pos, hstops.le, hstops.getElem?, rfl, ?_, ?_⟩
    · rintro ⟨g, hfirst⟩
      cases hfirst.symm.trans hresolve
    · intro labels' hresolve'
      cases hresolve.symm.trans hresolve'
      obtain ⟨inCode, hbefore, hline⟩ := hstops.reading.refused
      exact ⟨hstops.reading.fails_iff, inCode, hbefore, map_eq_error.mp hline⟩

/-- A source whose first line the second pass would refuse, and whose third the first pass does. -/
def misnamedSource : List Bytes :=
  [".word @nowhere", "", "  9x: .byte 1", ".byte 2"].map Bytes.ofString

/-- The fault of the third line. -/
def misnamedFault : Fault :=
  .atLine 3 (Bytes.ofString "9x: .byte 1") (.labelInvalid (Bytes.ofString "9x"))

/-- A source that the first pass accepts, with two instructions that cannot be read. -/
def undefinedSource : List Bytes :=
  ["a: .byte 1", " ", ".code", "movi ax,@b", "nop nop"].map Bytes.ofString

/-- The fault of the first of them. -/
def undefinedFault : Fault :=
  .atLine 4 (Bytes.ofString "movi ax,@b") (.labelUnknown (Bytes.ofString "b"))

/-- The labels of the source up to there. -/
def undefinedTable : LabelTable := ⟨[⟨Bytes.ofString "a", ⟨0x9000, .data⟩⟩]⟩

theorem assemble_refused_misnamedSource :
    (assemble .default misnamedSource = .error misnamedFault ∧
      ∀ others, assemble .default (misnamedSource.take 3 ++ others) = .error misnamedFault) ∧
    assemble .default undefinedSource = .error undefinedFault ∧
      Layout.resolve .default (SourceLine.ofTexts undefinedSource) = .ok undefinedTable ∧
      ∀ j, (∃ g, Emission.inCodeBehind undefinedTable
        (SourceLine.ofTexts (undefinedSource.take j)) = .error g) ↔ 4 ≤ j := by
  have hfirst : assemble .default misnamedSource = .error misnamedFault := by decide +kernel
  have hsecond : assemble .default undefinedSource = .error undefinedFault := by decide +kernel
  have hresolve : Layout.resolve .default (SourceLine.ofTexts undefinedSource) =
      .ok undefinedTable := by decide +kernel
  refine ⟨⟨hfirst, ?_⟩, hsecond, hresolve, ?_⟩
  · obtain ⟨k, text, cause, -, -, -, hf, hpass, -⟩ :=
      assemble_refused .default misnamedSource misnamedFault hfirst
    obtain rfl : 3 = k := Int.ofNat.inj (Fault.atLine.inj hf).1
    intro others
    exact ((hpass ⟨misnamedFault, by decide +kernel⟩).2 others).2
  · obtain ⟨k, text, cause, -, -, -, hf, -, hpass⟩ :=
      assemble_refused .default undefinedSource undefinedFault hsecond
    obtain rfl : 4 = k := Int.ofNat.inj (Fault.atLine.inj hf).1
    exact (hpass undefinedTable hresolve).1

end TwoPass
