import TwoPass.Proofs.Passes.Emissions
import TwoPass.Proofs.Source.Directives
import TwoPass.Proofs.Source.Mnemonics

/-!
# Lockstep — both passes over the same lines

The first pass gives sizes without reading, the second reads.  `Synchronised` relates the
two behind the same lines: they are in the same section, their data addresses are equal,
and the code address of the second is ahead by two bytes for every `movi` that the first
pass took for something shorter.  One line keeps the relation (`Synchronised.step`) and so
does a run (`Synchronised.run`); the starting states have it.
-/

namespace TwoPass

open Bytes

/-- A `movi` that the first pass gives two bytes: its statement does not start with the
    word `movi`. -/
def Item.hidesMovi (i : Item) : Bool :=
  i.instruction.any (fun instruction => instruction.opcode = .movi) &&
    !decide (Layout.SpellsMovi (Label.split i.line).2)

/-- How far the second pass is ahead of the first behind some items. -/
def drift (items : List Item) : Nat := 2 * items.countP Item.hidesMovi

theorem drift_reverse (items : List Item) : drift items.reverse = drift items := by
  rw [drift, drift, List.countP_reverse]

/-- Behind one more item the second pass is two bytes further ahead if the item hides a `movi`. -/
theorem drift_cons (i : Item) (items : List Item) :
    drift (i :: items) = drift items + if i.hidesMovi then 2 else 0 := by
  rw [drift, drift, List.countP_cons]
  split <;> omega

/-- There is no drift exactly behind items that hide nothing. -/
theorem drift_eq_zero {items : List Item} :
    drift items = 0 ↔ ∀ i ∈ items, i.hidesMovi = false := by
  rw [drift, Nat.mul_eq_zero, or_iff_right (by decide), List.countP_eq_zero]
  simp only [Bool.not_eq_true]

/-- Data hides nothing. -/
theorem hidesMovi_data (number : Int) (line : Bytes) (address : Int) (bytes : Bytes) :
    (Item.ofEmission number line address (.data bytes)).hidesMovi = false := rfl

/-- The size of an instruction is what the first pass gave its line, and two more if it is
    a `movi` that the first pass did not see. -/
theorem size_code {labels : LabelTable} {line text filled : Bytes} {i : Instruction}
    (htext : (Label.split line).2 = text) (hfill : Emission.fill labels true text = .ok filled)
    (hread : Instruction.read filled = .ok i) (hlegal : i.validate = .ok ())
    (number address : Int) :
    (Emission.code i).size = Layout.codeSize text +
      if (Item.ofEmission number line address (.code i)).hidesMovi then 2 else 0 := by
  have hhides : (Item.ofEmission number line address (.code i)).hidesMovi =
      (decide (i.opcode = .movi) && !decide (Layout.SpellsMovi text)) := by
    rw [← htext]
    rfl
  rw [hhides, Layout.codeSize_eq, Emission.size]
  obtain ⟨-, -, ⟨hop, hlong, -⟩ | ⟨hop, hlong, -⟩⟩ := Instruction.operands_of_validate hlegal
  · rw [hlong, decide_eq_true hop]
    by_cases hs : Layout.SpellsMovi text
    · rw [decide_eq_true hs, if_pos hs]
      rfl
    · rw [decide_eq_false hs, if_neg hs]
      rfl
  · -- what is no `movi` was not taken for one
    have hs : ¬ Layout.SpellsMovi text := fun hs => hop (opcode_of_spellsMovi hs hfill hread)
    rw [hlong, decide_eq_false hop, if_neg hs]
    rfl

/-- The two passes behind the same lines. -/
structure Synchronised (l : Layout) (s : Assembly) : Prop where
  inCode : l.inCode = s.inCode
  dataNext : l.dataNext = s.dataNext
  codeNext : s.codeNext = l.codeNext + drift s.items

namespace Synchronised

variable {labels : LabelTable} {l l' : Layout} {s s' : Assembly}

/-- Both passes start at the bases. -/
theorem start (c : Config) : Synchronised (.start c) (.start c) := ⟨rfl, rfl, (Int.add_zero _).symm⟩

/-- Labels do not move the first pass. -/
theorem define (h : Synchronised l s) (label : Option Bytes) : Synchronised (l.define label) s := by
  cases label with
  | none => exact h
  | some name => exact ⟨h.inCode, h.dataNext, h.codeNext⟩

/-- Whatever a body does to the second pass, the first keeps up with it. -/
theorem advance {line : SourceLine} {body : Body} (h : Synchronised l s)
    (htext : ∀ text, body = .text text → (Label.split line.text).2 = text ∧ Trimmed text)
    (hadvance : l.advance body = .ok l') (hmoves : Assembly.Moves labels line s body s') :
    Synchronised l' s' := by
  cases hmoves with
  | nothing =>
      cases Except.ok.inj hadvance
      exact h
  | marker henter =>
      obtain ⟨entered, henter', hadvance⟩ := bind_eq_ok.mp hadvance
      rw [h.inCode, henter, Except.ok.injEq] at henter'
      cases pure_eq_ok.mp hadvance
      exact ⟨henter'.symm, h.dataNext, h.codeNext⟩
  | @data text filled bytes hin hfill hread =>
      rw [Layout.advance, if_neg (by rw [h.inCode, hin]; exact Bool.false_ne_true)] at hadvance
      obtain ⟨n, hsize, hadvance⟩ := bind_eq_ok.mp hadvance
      cases pure_eq_ok.mp hadvance
      -- the directive was sized before its references were filled in, and has that size
      have hlen := Directive.length_read_of_size (htext text rfl).2 hsize hfill hread
      refine ⟨h.inCode, ?_, ?_⟩
      · show l.dataNext + n = s.dataNext + (bytes.length : Nat)
        rw [h.dataNext, hlen]
      · show s.codeNext = l.codeNext + drift (Item.ofEmission _ _ _ (.data bytes) :: s.items)
        rw [drift_cons, hidesMovi_data]
        exact h.codeNext
  | @code text filled i hin hfill hread hlegal =>
      rw [Layout.advance, if_pos (by rw [h.inCode, hin])] at hadvance
      cases Except.ok.inj hadvance
      refine ⟨h.inCode, h.dataNext, ?_⟩
      show s.codeNext + ((Emission.code i).size : Nat) = l.codeNext + Layout.codeSize text +
        drift (Item.ofEmission line.number line.text s.codeNext (.code i) :: s.items)
      -- the one difference in size is what the drift counts
      rw [drift_cons, size_code (htext text rfl).1 hfill hread hlegal line.number s.codeNext,
        h.codeNext]
      omega

/-- Both passes stay together on a line that both accept. -/
theorem step {line : SourceLine} (h : Synchronised l s) (htrim : Trimmed line.text)
    (hlayout : l.step line.text = .ok l') (hassembly : s.step labels line = .ok s') :
    Synchronised l' s' := by
  obtain ⟨st, hst, hadvance⟩ := bind_eq_ok.mp hlayout
  obtain ⟨st', hst', hmoves⟩ := Assembly.moves_of_step hassembly
  cases hst.symm.trans hst'
  refine (h.define st.label).advance ?_ hadvance hmoves
  intro text hbody
  have htext := Statement.text_of_read hst hbody
  exact ⟨htext, htext ▸ Label.trimmed_split htrim⟩

/-- So they stay together over all lines. -/
theorem run {lines : List SourceLine} (h : Synchronised l s)
    (htrim : ∀ line ∈ lines, Trimmed line.text)
    (hlayout : l.run lines = .ok l') (hassembly : s.run labels lines = .ok s') :
    Synchronised l' s' := by
  induction lines generalizing l s with
  | nil =>
      cases foldlM_nil_eq_ok.mp hlayout
      cases foldlM_nil_eq_ok.mp hassembly
      exact h
  | cons line lines ih =>
      obtain ⟨l₁, hl, hlayout⟩ := foldlM_cons_eq_ok.mp hlayout
      obtain ⟨s₁, hs, hassembly⟩ := foldlM_cons_eq_ok.mp hassembly
      have hstep :=
        h.step (htrim line List.mem_cons_self) (mapError_eq_ok.mp hl) (mapError_eq_ok.mp hs)
      exact ih hstep (fun line' hmem => htrim line' (List.mem_cons_of_mem _ hmem)) hlayout hassembly

end Synchronised

/-! ## Both passes over a whole source -/

/-- A source is assembled if both passes accept all of its lines. -/
theorem assemble_eq_ok {c : Config} {texts : List Bytes} {p : Program} :
    assemble c texts = .ok p ↔ ∃ l s,
      Layout.run (.start c) (SourceLine.ofTexts texts) = .ok l ∧
      Assembly.run l.labels (.start c) (SourceLine.ofTexts texts) = .ok s ∧
      p = ⟨s.items.reverse, l.labels⟩ := by
  constructor
  · intro h
    obtain ⟨labels, hresolve, h⟩ := bind_eq_ok.mp h
    obtain ⟨l, hlayout, rfl⟩ := map_eq_ok.mp hresolve
    obtain ⟨s, hassembly, h⟩ := bind_eq_ok.mp h
    exact ⟨l, s, hlayout, hassembly, (pure_eq_ok.mp h).symm⟩
  · rintro ⟨l, s, hlayout, hassembly, rfl⟩
    refine bind_eq_ok.mpr ⟨l.labels, map_eq_ok.mpr ⟨l, hlayout, rfl⟩, ?_⟩
    exact bind_eq_ok.mpr ⟨s, hassembly, rfl⟩

/-- A source that is assembled can be stopped behind any of its texts: both passes have run
    up to there, and go on from there to the end. -/
theorem runs_of_assemble {c : Config} {texts : List Bytes} {p : Program}
    (h : assemble c texts = .ok p) (k : Nat) :
    ∃ l l' s s',
      Layout.run (.start c) (SourceLine.ofTexts (texts.take k)) = .ok l ∧
      l.run (SourceLine.linesBehind k texts) = .ok l' ∧
      Assembly.run p.labels (.start c) (SourceLine.ofTexts (texts.take k)) = .ok s ∧
      s.run p.labels (SourceLine.linesBehind k texts) = .ok s' ∧
      p = ⟨s'.items.reverse, l'.labels⟩ := by
  obtain ⟨l', s', hlayout, hassembly, rfl⟩ := assemble_eq_ok.mp h
  rw [SourceLine.ofTexts_take texts k] at hlayout hassembly
  obtain ⟨l, hl, hl'⟩ := foldlM_append_eq_ok.mp hlayout
  obtain ⟨s, hs, hs'⟩ := foldlM_append_eq_ok.mp hassembly
  exact ⟨l, l', s, s', hl, hl', hs, hs', rfl⟩

/-- The items of the first texts are those with the first numbers. -/
theorem filter_items_of_runs {c : Config} {texts : List Bytes} {labels : LabelTable} {k : Nat}
    {s s' : Assembly}
    (h : Assembly.run labels (.start c) (SourceLine.ofTexts (texts.take k)) = .ok s)
    (h' : s.run labels (SourceLine.linesBehind k texts) = .ok s') :
    s'.items.reverse.filter (fun i : Item => i.number ≤ k) = s.items.reverse := by
  obtain ⟨ds, cs, hbefore⟩ := Assembly.emits_of_run h
  obtain ⟨ds', cs', hbehind⟩ := Assembly.emits_of_run h'
  have hkept : ∀ i ∈ s.items.reverse, decide (i.number ≤ k) = true := by
    intro i hi
    rw [hbefore.items_eq] at hi
    obtain ⟨line, hline, hnumber⟩ := hbefore.exists_line hi
    have hle := SourceLine.number_le_of_mem_take hline
    rw [decide_eq_true_iff, hnumber]
    omega
  have hdropped : ∀ i ∈ ds' ++ cs', ¬ decide (i.number ≤ k) = true := by
    intro i hi
    obtain ⟨line, hline, hnumber⟩ := hbehind.exists_line hi
    have hlt := SourceLine.lt_number_of_mem_behind hline
    rw [decide_eq_true_iff, hnumber]
    omega
  rw [hbehind.items, List.reverse_append, List.reverse_reverse, List.filter_append,
    List.filter_eq_self.mpr hkept, List.filter_eq_nil_iff.mpr hdropped, List.append_nil]

/-- **THE DRIFT OF THE PASSES.**  Stop both passes over an assembled source behind any of its
    lines.  They are in the same section and have the same data address.  The second pass
    is ahead in the code section, by two bytes for every item so far whose instruction is a
    `movi` and whose statement does not start with that word. -/
theorem passes_drift (c : Config) (texts : List Bytes) (p : Program)
    (h : assemble c texts = .ok p) (k : Nat) :
    ∃ (l : Layout) (s : Assembly),
      Layout.run (.start c) (SourceLine.ofTexts (texts.take k)) = .ok l ∧
      Assembly.run p.labels (.start c) (SourceLine.ofTexts (texts.take k)) = .ok s ∧
      p.items.filter (fun i : Item => i.number ≤ k) = s.items.reverse ∧
      l.inCode = s.inCode ∧ l.dataNext = s.dataNext ∧ l.codeNext ≤ s.codeNext ∧
      s.codeNext - l.codeNext =
        2 * p.items.countP fun i : Item => i.hidesMovi && decide (i.number ≤ k) := by
  obtain ⟨l, l', s, s', hl, -, hs, hs', rfl⟩ := runs_of_assemble h k
  have hsync := (Synchronised.start c).run (fun line => SourceLine.trimmed_of_mem) hl hs
  have hitems := filter_items_of_runs hs hs'
  have hcode := hsync.codeNext
  refine ⟨l, s, hl, hs, hitems, hsync.inCode, hsync.dataNext, by omega, ?_⟩
  rw [← List.countP_filter, hitems, hcode, ← drift_reverse, drift]
  omega

/-- A source in which the first pass misses a `movi`, as no blank stands behind it. -/
def hiddenSource : List Bytes := ["x: .word 3", ".code", "movi,ax,5", "L: nop"].map Bytes.ofString

/-- What it assembles to: the label `L` is two bytes short of its line. -/
def hiddenProgram : Program where
  items :=
    [⟨1, Bytes.ofString "x: .word 3", 0x9000, some [0, 3], none⟩,
      ⟨3, Bytes.ofString "movi,ax,5", 0x5800, none,
        some (.derive .movi (.ofRegister ⟨1⟩) (.large 5))⟩,
      ⟨4, Bytes.ofString "L: nop", 0x5804, none, some (.derive ⟨0⟩ .none .none)⟩]
  labels :=
    ⟨[⟨Bytes.ofString "L", ⟨0x5802, .code⟩⟩, ⟨Bytes.ofString "x", ⟨0x9000, .data⟩⟩]⟩

theorem assemble_hiddenSource : assemble .default hiddenSource = .ok hiddenProgram := rfl

/-- Behind the hidden `movi` the second pass is ahead by two bytes. -/
theorem passes_drift_hiddenSource :
    assemble .default hiddenSource = .ok hiddenProgram ∧
    ∃ (l : Layout) (s : Assembly),
      Layout.run (.start .default) (SourceLine.ofTexts (hiddenSource.take 3)) = .ok l ∧
      Assembly.run hiddenProgram.labels (.start .default)
        (SourceLine.ofTexts (hiddenSource.take 3)) = .ok s ∧
      l.inCode = s.inCode ∧ l.dataNext = s.dataNext ∧ s.codeNext - l.codeNext = 2 := by
  refine ⟨assemble_hiddenSource, ?_⟩
  obtain ⟨l, s, hl, hs, -, hin, hdata, -, hcode⟩ :=
    passes_drift .default hiddenSource hiddenProgram assemble_hiddenSource 3
  exact ⟨l, s, hl, hs, hin, hdata, hcode⟩

end TwoPass
