import TwoPass.Proofs.Passes.Kinds
import TwoPass.Proofs.Program.Image
import TwoPass.Proofs.Session
import TwoPass.Proofs.Source.Lines

/-!
# Numbering — a source with blank lines put in

Lines with nothing on them are dropped, so a source has the same lines with and without them, under
other numbers (`Insertion.ofTexts_all`).  Numbers only say where a line stands: each pass takes the
same step under any number (`Assembly.step_shift`), so a walk over the renumbered lines ends in the
same state, or at the same line for the same cause (`foldlM_shift`).  With what is known of blanks at
the ends of lines and of carriage returns, nothing is left of the layout of a source.
-/

namespace TwoPass

open Bytes

/-! ## Other numbers -/

section Shift

variable (d : Nat → Nat)

/-- A line moved on by as many places as is said for its number. -/
def SourceLine.shift (line : SourceLine) : SourceLine := ⟨line.number + d line.number, line.text⟩

/-- An item whose line is moved on. -/
def Item.shift (i : Item) : Item := { i with number := i.number + d i.number.toNat }

/-- A fault whose line is moved on. -/
def Fault.shift : Fault → Fault
  | .atLine number line cause => .atLine (number + d number.toNat) line cause
  | f => f

/-- The second pass over lines that are moved on. -/
def Assembly.shift (s : Assembly) : Assembly := { s with items := s.items.map (Item.shift d) }

/-- A program whose lines are moved on. -/
def Program.shift (p : Program) : Program := { p with items := p.items.map (Item.shift d) }

variable {d}

/-- A walk over lines that are moved on follows the walk over the lines where they were, if each
    step does. -/
theorem foldlM_shift {σ : Type} {g : σ → SourceLine → Except Fault σ} (onState : σ → σ)
    (hstep : ∀ s line, g (onState s) (line.shift d) = (g s line).map onState) (s : σ)
    (lines : List SourceLine) :
    (lines.map (SourceLine.shift d)).foldlM
        (fun s line => (g s line).mapError (Fault.atLine line.number line.text)) (onState s) =
      ((lines.foldlM (fun s line => (g s line).mapError (Fault.atLine line.number line.text))
        s).map onState).mapError (Fault.shift d) := by
  induction lines generalizing s with
  | nil => rfl
  | cons line lines ih =>
      rw [List.map_cons, List.foldlM_cons, List.foldlM_cons, hstep]
      cases g s line with
      | error f =>
          show Except.error (Fault.atLine (line.shift d).number (line.shift d).text f) =
            .error (Fault.atLine (line.number + d (line.number : Int).toNat) line.text f)
          simp [SourceLine.shift]
      | ok t => exact ih t

/-- The first pass does not look at numbers. -/
theorem Layout.resolve_shift (c : Config) (lines : List SourceLine) :
    resolve c (lines.map (SourceLine.shift d)) = (resolve c lines).mapError (Fault.shift d) := by
  have hstep : ∀ (l : Layout) (line : SourceLine),
      l.step (line.shift d).text = (l.step line.text).map id := by
    intro l line
    show l.step line.text = _
    cases l.step line.text <;> rfl
  have hrun : run (start c) (lines.map (SourceLine.shift d)) =
      ((run (start c) lines).map id).mapError (Fault.shift d) := foldlM_shift id hstep (start c) lines
  rw [resolve, resolve, hrun]
  cases run (start c) lines <;> rfl

namespace Assembly

variable {labels : LabelTable}

theorem add_shift (s : Assembly) (line : SourceLine) (e : Emission) :
    (s.shift d).add (line.shift d) e = (s.add line e).shift d := by
  cases e with
  | data bytes => simp [add, shift, SourceLine.shift, Item.ofEmission, Item.shift]
  | code i => simp [add, shift, SourceLine.shift, Item.ofEmission, Item.shift]

/-- The second pass takes the same step under any number. -/
theorem step_shift (s : Assembly) (line : SourceLine) :
    (s.shift d).step labels (line.shift d) = (s.step labels line).map (shift d) := by
  cases hline : Emission.ofLine labels s.inCode line.text with
  | error f =>
      have hshift : Emission.ofLine labels (s.shift d).inCode (line.shift d).text = .error f := hline
      rw [step, step, hline, hshift]
      rfl
  | ok reading =>
      obtain ⟨inCode, emission⟩ := reading
      have hshift : Emission.ofLine labels (s.shift d).inCode (line.shift d).text =
          .ok (inCode, emission) := hline
      rw [step_of_ofLine hline, step_of_ofLine hshift]
      cases emission with
      | none => rfl
      | some e => exact congrArg Except.ok (add_shift { s with inCode } line e)

/-- The second pass, with all line numbers moved. -/
theorem program_shift (c : Config) (lines : List SourceLine) :
    program c labels (lines.map (SourceLine.shift d)) =
      ((program c labels lines).map (Program.shift d)).mapError (Fault.shift d) := by
  have hrun : run labels (start c) (lines.map (SourceLine.shift d)) =
      ((run labels (start c) lines).map (shift d)).mapError (Fault.shift d) :=
    foldlM_shift (shift d) step_shift (start c) lines
  rw [program, program, hrun]
  cases run labels (start c) lines with
  | error f => rfl
  | ok s =>
      show Except.ok (Program.mk (s.items.map (Item.shift d)).reverse labels) =
        .ok (Program.mk (s.items.reverse.map (Item.shift d)) labels)
      rw [List.map_reverse]

end Assembly

/-- **NUMBERS DO NOT MATTER.**  Two sources with the same lines under other numbers are assembled
    alike, to the numbers. -/
theorem assemble_shift (c : Config) {texts texts' : List Bytes}
    (h : SourceLine.ofTexts texts' = (SourceLine.ofTexts texts).map (SourceLine.shift d)) :
    assemble c texts' = ((assemble c texts).map (Program.shift d)).mapError (Fault.shift d) := by
  rw [assemble, assemble, h, Layout.resolve_shift]
  cases Layout.resolve c (SourceLine.ofTexts texts) with
  | error f => rfl
  | ok labels => exact Assembly.program_shift c (SourceLine.ofTexts texts)

end Shift

/-! ## Lines put in -/

/-- A list of lines with others put between them: in front of each line those of its gap, and
    the rest behind the last one. -/
structure Insertion where
  gaps : List (List Bytes × Bytes)
  rest : List Bytes

namespace Insertion

/-- The lines without those put in. -/
def kept (n : Insertion) : List Bytes := n.gaps.map Prod.snd

/-- The lines put in. -/
def inserted (n : Insertion) : List Bytes := n.gaps.flatMap Prod.fst ++ n.rest

/-- All lines in order. -/
def all (n : Insertion) : List Bytes := n.gaps.flatMap (fun gap => gap.1 ++ [gap.2]) ++ n.rest

/-- How many lines are put in front of the line that had a number. -/
def countBefore (n : Insertion) (number : Nat) : Nat :=
  ((n.gaps.take number).flatMap Prod.fst).length

theorem countBefore_cons (gap : List Bytes × Bytes) (gaps : List (List Bytes × Bytes))
    (rest : List Bytes) (k : Nat) :
    countBefore ⟨gap :: gaps, rest⟩ (k + 1) = gap.1.length + countBefore ⟨gaps, rest⟩ k := by
  simp [countBefore]

/-- With blank lines put in, the other lines are the same and only move on.  The walk over the
    gaps has already met `m` lines put in when it comes to the line that had the number `n`. -/
theorem linesFrom_all {gaps : List (List Bytes × Bytes)} {rest : List Bytes}
    (h : ∀ t ∈ inserted ⟨gaps, rest⟩, IsBlank t) (n m : Nat) :
    SourceLine.linesFrom (n + m) (all ⟨gaps, rest⟩) =
      (SourceLine.linesFrom n (kept ⟨gaps, rest⟩)).map fun line =>
        ⟨line.number + (m + countBefore ⟨gaps, rest⟩ (line.number + 1 - n)), line.text⟩ := by
  induction gaps generalizing n m with
  | nil => exact SourceLine.linesFrom_blank h (n + m)
  | cons gap gaps ih =>
      have hgap : ∀ t ∈ gap.1, IsBlank t := fun t ht => h t (by simp [inserted, ht])
      have hrest : ∀ t ∈ inserted ⟨gaps, rest⟩, IsBlank t := by
        intro t ht
        refine h t ?_
        rw [inserted, List.flatMap_cons, List.append_assoc]
        exact List.mem_append_right _ ht
      have hall : all ⟨gap :: gaps, rest⟩ = gap.1 ++ gap.2 :: all ⟨gaps, rest⟩ := by simp [all]
      have hkept : kept ⟨gap :: gaps, rest⟩ = gap.2 :: kept ⟨gaps, rest⟩ := rfl
      rw [hall, SourceLine.linesFrom_append, SourceLine.linesFrom_blank hgap, List.nil_append,
        SourceLine.linesFrom_cons, hkept, SourceLine.linesFrom_cons, List.map_append]
      refine congrArg₂ (· ++ ·) ?_ ?_
      · -- the line itself stands behind its gap
        rw [SourceLine.ofText?, SourceLine.ofText?]
        split
        · rfl
        · simp [countBefore, Nat.add_assoc]
      · rw [show n + m + gap.1.length + 1 = n + 1 + (m + gap.1.length) by omega, ih hrest]
        refine List.map_congr_left fun line hline => ?_
        have hle := (SourceLine.number_of_mem hline).1
        have hcount := countBefore_cons gap gaps rest (line.number - n)
        rw [show line.number + 1 - (n + 1) = line.number - n by omega,
          show line.number + 1 - n = line.number - n + 1 by omega, hcount, Nat.add_assoc]

/-- **BLANK LINES.**  A source with blank lines put in has the lines that it had, each moved on by
    the number of lines put in front of it. -/
theorem ofTexts_all {n : Insertion} (h : ∀ t ∈ n.inserted, IsBlank t) :
    SourceLine.ofTexts n.all = (SourceLine.ofTexts n.kept).map (SourceLine.shift n.countBefore) := by
  refine (linesFrom_all h 1 0).trans (List.map_congr_left fun line _ => ?_)
  rw [Nat.add_sub_cancel, Nat.zero_add]
  rfl

/-- A line of the longer source is one that was kept or one that was inserted. -/
theorem mem_all {n : Insertion} {line : Bytes} :
    line ∈ n.all → line ∈ n.kept ∨ line ∈ n.inserted := by
  simp only [all, kept, inserted, List.mem_append, List.mem_flatMap, List.mem_map,
    List.mem_singleton]
  rintro (⟨gap, hgap, hline | rfl⟩ | hline)
  · exact Or.inr (Or.inl ⟨gap, hgap, hline⟩)
  · exact Or.inl ⟨gap, hgap, rfl⟩
  · exact Or.inr (Or.inr hline)

/-- Blank lines put into a source that is assembled move its items on. -/
theorem assemble_all_of_ok {c : Config} {n : Insertion} (h : ∀ t ∈ n.inserted, IsBlank t)
    {p : Program} (hp : assemble c n.kept = .ok p) :
    assemble c n.all = .ok (p.shift n.countBefore) ∧
      ∃ image, p.image = .ok image ∧ (p.shift n.countBefore).image = .ok image := by
  constructor
  · rw [assemble_shift c (ofTexts_all h), hp]
    rfl
  · obtain ⟨D, C, hplaced⟩ := placed_of_assemble hp
    have himage := Program.image_of_joined hplaced.one hplaced.dataBytes hplaced.codeBytes
    have hsame : (p.shift n.countBefore).image = p.image :=
      Program.image_map (f := Item.shift n.countBefore) (fun _ => rfl) (fun _ => rfl) hplaced rfl
    exact ⟨_, himage, hsame.trans himage⟩

/-- Blank lines put into a source that is refused move its fault on. -/
theorem assemble_all_of_error {c : Config} {n : Insertion} (h : ∀ t ∈ n.inserted, IsBlank t)
    {f : Fault} (hf : assemble c n.kept = .error f) :
    ∃ (k : Nat) (line : Bytes) (cause : Fault), f = .atLine k line cause ∧
      assemble c n.all = .error (.atLine (k + n.countBefore k : Nat) line cause) := by
  obtain ⟨k, text, cause, rfl, -⟩ := exists_isListed_of_assemble hf
  refine ⟨k, text.trim, cause, rfl, ?_⟩
  rw [assemble_shift c (ofTexts_all h), hf]
  rfl

end Insertion

/-! ## Layout -/

namespace Assembler

/-- Source text whose lines are short enough is assembled as the lines between its newlines. -/
theorem runSource_of_short (a : Assembler) {source : Bytes}
    (h : ∀ l ∈ splitOn newline source, l.length < lineLimit) :
    a.runSource source =
      ⟨(a.run (splitOn newline source)).result.mapError .fault,
        (a.run (splitOn newline source)).assembler, (a.run (splitOn newline source)).log⟩ := by
  obtain ⟨texts, htexts⟩ := exists_lines? h
  have hrun : a.run texts = a.run (splitOn newline source) := by
    rw [run, run, SourceLine.ofTexts_of_lines? htexts]
  rw [runSource, htexts, ← hrun]

/-- Source without long lines is assembled as its lines. -/
theorem result_of_short (a : Assembler) {source : Bytes}
    (h : ∀ l ∈ splitOn newline source, l.length < lineLimit) :
    (a.runSource source).result =
      (assemble a.settings (splitOn newline source)).mapError .fault := by
  rw [runSource_of_short a h, result_run]

/-- Blanks at the ends of lines do not matter. -/
theorem runSource_of_sameText (a : Assembler) {source source' : Bytes}
    (h : ∀ l ∈ splitOn newline source, l.length < lineLimit)
    (h' : ∀ l ∈ splitOn newline source', l.length < lineLimit)
    (hsame : List.Forall₂ SameText (splitOn newline source) (splitOn newline source')) :
    a.runSource source' = a.runSource source := by
  have hrun : a.run (splitOn newline source') = a.run (splitOn newline source) := by
    rw [run, run, SourceLine.ofTexts_of_sameText hsame]
  rw [runSource_of_short a h, runSource_of_short a h', hrun]

/-- **THE LAYOUT OF A SOURCE DOES NOT MATTER.**  Let every line of a source have at most 65534
    bytes.  Carriage returns in front of all newlines change nothing, and neither do blanks added
    or removed at the ends of lines, as long as lines stay that short.  Blank lines put in anywhere
    leave the label table and the image as they are and move items and faults on by the number of
    lines put in front of them. -/
theorem runSource_layout (a : Assembler) (source : Bytes)
    (hshort : ∀ line ∈ splitOn newline source, line.length ≤ 65534) :
    a.runSource (withReturns source) = a.runSource source ∧
    (∀ source', (∀ line ∈ splitOn newline source', line.length ≤ 65534) →
      List.Forall₂ SameText (splitOn newline source) (splitOn newline source') →
      a.runSource source' = a.runSource source) ∧
    ∀ (n : Insertion) (source' : Bytes), n.kept = splitOn newline source →
      n.all = splitOn newline source' → (∀ line ∈ n.inserted, IsBlank line ∧ line.length ≤ 65534) →
      (a.runSource source').assembler = (a.runSource source).assembler ∧
      (∀ p, (a.runSource source).result = .ok p →
        ∃ p' image, (a.runSource source').result = .ok p' ∧ p'.labels = p.labels ∧
          p.image = .ok image ∧ p'.image = .ok image ∧
          p'.items = p.items.map fun i : Item =>
            { i with number := i.number + n.countBefore i.number.toNat }) ∧
      (∀ e, (a.runSource source).result = .error e →
        ∃ (k : Nat) (line : Bytes) (cause : Fault), e = .fault (.atLine k line cause) ∧
          (a.runSource source').result =
            .error (.fault (.atLine (k + n.countBefore k : Nat) line cause))) := by
  have hlimit : ∀ l ∈ splitOn newline source, l.length < lineLimit := by
    intro l hl
    exact Nat.lt_of_le_of_lt (hshort l hl) (by decide)
  refine ⟨?_, ?_, ?_⟩
  · refine runSource_of_sameText a hlimit ?_ (sameText_withReturns source)
    intro l' hl'
    -- a line grows by one byte at most
    obtain ⟨l, hl, hline⟩ := exists_of_mem_forall₂ (splitOn_withReturns source).flip hl'
    have hle := hshort l hl
    rcases hline with rfl | rfl
    · exact hlimit _ hl
    · rw [List.length_append]
      exact Nat.lt_of_le_of_lt (Nat.add_le_add_right hle 1) (by decide)
  · intro source' hshort' hsame
    refine runSource_of_sameText a hlimit ?_ hsame
    intro l hl
    exact Nat.lt_of_le_of_lt (hshort' l hl) (by decide)
  · intro n source' hkept hall hinserted
    have hblank : ∀ line ∈ n.inserted, IsBlank line := fun line hline => (hinserted line hline).1
    have hlimit' : ∀ l ∈ splitOn newline source', l.length < lineLimit := by
      intro l hl
      rcases Insertion.mem_all (hall ▸ hl) with hl | hl
      · exact hlimit l (hkept ▸ hl)
      · exact Nat.lt_of_le_of_lt (hinserted l hl).2 (by decide)
    refine ⟨?_, ?_, ?_⟩
    · -- the first pass gives the same table, or none in both cases
      rw [runSource_of_short a hlimit, runSource_of_short a hlimit']
      show (a.run _).assembler = (a.run _).assembler
      rw [assembler_run, assembler_run, ← hall, ← hkept, Insertion.ofTexts_all hblank,
        Layout.resolve_shift]
      cases Layout.resolve a.settings (SourceLine.ofTexts n.kept) <;> rfl
    · intro p hp
      rw [result_of_short a hlimit, ← hkept] at hp
      obtain ⟨hp', image, himage, himage'⟩ :=
        Insertion.assemble_all_of_ok hblank (mapError_eq_ok.mp hp)
      refine ⟨p.shift n.countBefore, image, ?_, rfl, himage, himage', rfl⟩
      rw [result_of_short a hlimit', ← hall, hp']
      rfl
    · intro e he
      rw [result_of_short a hlimit, ← hkept] at he
      obtain ⟨f, hf, rfl⟩ := mapError_eq_error.mp he
      obtain ⟨k, line, cause, rfl, hfault⟩ := Insertion.assemble_all_of_error hblank hf
      refine ⟨k, line, cause, rfl, ?_⟩
      rw [result_of_short a hlimit', ← hall, hfault]
      rfl

/-- A source of three lines. -/
def denseSource : Bytes := Bytes.ofString "x: .byte 1\n.code\nL: nop"

/-- What it assembles to. -/
def denseProgram : Program where
  items :=
    [⟨1, Bytes.ofString "x: .byte 1", 0x9000, some [1], none⟩,
      ⟨3, Bytes.ofString "L: nop", 0x5800, none, some (.derive ⟨0⟩ .none .none)⟩]
  labels := ⟨[⟨Bytes.ofString "L", ⟨0x5800, .code⟩⟩, ⟨Bytes.ofString "x", ⟨0x9000, .data⟩⟩]⟩

/-- The source with one blank line in front, two between its last lines, and one at the end. -/
def sparseSource : Bytes := Bytes.ofString " \t\nx: .byte 1\n.code\n\n\u3000\nL: nop\n\r"

/-- Where the blank lines stand. -/
def sparseInsertion : Insertion where
  gaps :=
    [([Bytes.ofString " \t"], Bytes.ofString "x: .byte 1"), ([], Bytes.ofString ".code"),
      ([[], Bytes.ofString "\u3000"], Bytes.ofString "L: nop")]
  rest := [Bytes.ofString "\r"]

theorem runSource_layout_sparseSource :
    (∀ line ∈ splitOn newline denseSource, line.length ≤ 65534) ∧
    (Assembler.new.runSource denseSource).result = .ok denseProgram ∧
    (Assembler.new.runSource (withReturns denseSource)).result = .ok denseProgram ∧
    ∃ p', (Assembler.new.runSource sparseSource).result = .ok p' ∧
      p'.labels = denseProgram.labels ∧ p'.items.map Item.number = [2, 6] := by
  have hshort : ∀ line ∈ splitOn newline denseSource, line.length ≤ 65534 := by decide +kernel
  have hdense : (Assembler.new.runSource denseSource).result = .ok denseProgram := by
    decide +kernel
  obtain ⟨hreturns, -, hinsertion⟩ := runSource_layout .new denseSource hshort
  obtain ⟨-, hprogram, -⟩ := hinsertion sparseInsertion sparseSource (by decide +kernel)
    (by decide +kernel) (by decide +kernel)
  obtain ⟨p', -, hsparse, hlabels, -, -, hitems⟩ := hprogram denseProgram hdense
  refine ⟨hshort, hdense, ?_, p', hsparse, hlabels, ?_⟩
  · rw [hreturns]
    exact hdense
  · rw [hitems]
    decide +kernel

end Assembler

end TwoPass
