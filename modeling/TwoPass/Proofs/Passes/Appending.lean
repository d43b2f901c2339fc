import TwoPass.Proofs.Passes.Addresses

/-!
# Appending — more source behind a program leaves the program as it is

Lines behind a source cannot reach back into it.  The first pass has gone over the source before
it meets them, and a line that defines no name of the table leaves the names of the table alone
(`restrict_of_run`).  The second pass does see the larger table from the first line on, but a line
that was accepted asks only for names that are in the smaller one, and a table that knows more
gives these the same addresses (`run_of_extends`).  So the longer source goes through the same
states up to where the shorter one ends, and puts its own items behind.
-/

namespace TwoPass

open Bytes Reference

/-! ## Tables that know more -/

namespace LabelTable

variable {t t' : LabelTable} {name other : Bytes} {symbol : Symbol} {names : List Bytes}

/-- The part of a table that is about some names. -/
def restrict (t : LabelTable) (names : List Bytes) : LabelTable :=
  ⟨t.entries.filter fun e => e.name ∈ names⟩

/-- A table restricted to its own names is the whole table. -/
theorem restrict_names (t : LabelTable) : t.restrict t.names = t := by
  have hall : ∀ e ∈ t.entries, decide (e.name ∈ t.names) = true := by
    intro e he
    exact decide_eq_true (List.mem_map_of_mem he)
  rw [restrict, List.filter_eq_self.mpr hall]

/-- What is said of other names does not show in the part about some. -/
theorem restrict_insert_of_not_mem (h : other ∉ names) :
    (t.insert other symbol).restrict names = t.restrict names := by
  have htests : ∀ e ∈ t.entries,
      (decide (e.name ∈ names) && decide (e.name ≠ other)) = decide (e.name ∈ names) := by
    intro e _
    by_cases hmem : e.name ∈ names
    · have hne : e.name ≠ other := fun he => h (he ▸ hmem)
      simp [hmem, hne]
    · simp [hmem]
  rw [restrict, insert, List.filter_cons_of_neg (by simpa using h), List.filter_filter,
    List.filter_congr htests]
  rfl

/-- In the part about some names, these stand for what they stood for. -/
theorem find?_restrict (h : name ∈ names) : (t.restrict names).find? name = t.find? name := by
  have htests : (fun e : SymbolEntry => decide (decide (e.name ∈ names) = true ∧
      decide (e.name = name) = true)) = fun e => decide (e.name = name) := by
    funext e
    by_cases he : e.name = name
    · simp [he, h]
    · simp [he]
  rw [find?, restrict, List.find?_filter, htests, ← find?]

theorem mem_names_of_find? (h : t.find? name = some symbol) : name ∈ t.names := by
  obtain ⟨e, he, -⟩ := Option.map_eq_some_iff.mp h
  have hname : e.name = name := by simpa using List.find?_some he
  rw [← hname]
  exact List.mem_map_of_mem (List.mem_of_find?_eq_some he)

/-- Every label of a table stands for the same in another one. -/
def Extends (t t' : LabelTable) : Prop :=
  ∀ name symbol, t.find? name = some symbol → t'.find? name = some symbol

/-- A table extends the part of it that is about some names. -/
theorem extends_of_restrict (h : t'.restrict t.names = t) : t.Extends t' := by
  intro name symbol hfind
  rw [← find?_restrict (mem_names_of_find? hfind), h]
  exact hfind

/-- A larger table keeps the addresses. -/
theorem Extends.address? (h : t.Extends t') {a : Int} (ha : t.address? name = some a) :
    t'.address? name = some a := by
  obtain ⟨symbol, hfind, rfl⟩ := Option.map_eq_some_iff.mp ha
  rw [LabelTable.address?, h name symbol hfind]
  rfl

end LabelTable

/-! ## Both passes over the same lines -/

/-- Lines that define no name of a list leave the table's part about these names alone. -/
theorem Layout.restrict_of_run {l l' : Layout} {lines : List SourceLine} {names : List Bytes}
    (h : l.run lines = .ok l')
    (hnew : ∀ line ∈ lines, ∀ name, (Label.split line.text).1 = some name → name ∉ names) :
    l'.labels.restrict names = l.labels.restrict names := by
  induction lines generalizing l with
  | nil =>
      cases foldlM_nil_eq_ok.mp h
      rfl
  | cons line lines ih =>
      obtain ⟨l₁, hstep, h⟩ := foldlM_cons_eq_ok.mp h
      rw [ih h (fun line' hmem => hnew line' (List.mem_cons_of_mem _ hmem)),
        labels_of_step (mapError_eq_ok.mp hstep)]
      have hline := hnew line List.mem_cons_self
      cases hlabel : (Label.split line.text).1 with
      | none => rfl
      | some name => exact LabelTable.restrict_insert_of_not_mem (hline name hlabel)

/-- A statement that is filled in from a table is filled in alike from a larger one. -/
theorem Emission.fill_of_extends {labels labels' : LabelTable} (hext : labels.Extends labels')
    {inCode : Bool} {text filled : Bytes} (h : fill labels inCode text = .ok filled) :
    fill labels' inCode text = .ok filled := by
  rw [fill] at h ⊢
  split at h
  · rename_i hverbatim
    rw [if_pos hverbatim]
    exact h
  · rename_i hverbatim
    rw [if_neg hverbatim]
    refine substitute_eq_ok.mpr ((substitute_eq_ok.mp h).imp ?_)
    rintro name out ⟨a, ha, rfl⟩
    exact ⟨a, hext.address? ha, rfl⟩

namespace Assembly

variable {labels labels' : LabelTable} {s s' : Assembly}

/-- What a line comes to does not change when the table grows. -/
theorem Moves.of_extends (hext : labels.Extends labels') {line : SourceLine} {body : Body}
    (h : Moves labels line s body s') : Moves labels' line s body s' := by
  cases h with
  | nothing => exact .nothing
  | marker henter => exact .marker henter
  | data hin hfill hread => exact .data hin (Emission.fill_of_extends hext hfill) hread
  | code hin hfill hread hlegal =>
      exact .code hin (Emission.fill_of_extends hext hfill) hread hlegal

/-- A run of the second pass goes the same way with a larger table. -/
theorem run_of_extends (hext : labels.Extends labels') {lines : List SourceLine}
    (h : run labels s lines = .ok s') : run labels' s lines = .ok s' := by
  induction lines generalizing s with
  | nil => exact h
  | cons line lines ih =>
      obtain ⟨t, hstep, hrest⟩ := foldlM_cons_eq_ok.mp h
      obtain ⟨st, hst, hmoves⟩ := moves_of_step (mapError_eq_ok.mp hstep)
      have hstep' := step_of_moves hst (hmoves.of_extends hext)
      exact foldlM_cons_eq_ok.mpr ⟨t, mapError_eq_ok.mpr hstep', ih hrest⟩

end Assembly

/-- **APPENDING SOURCE.**  Let a source be assembled, by itself and with further lines behind it,
    none of which defines a name of its label table.  Then the items of the longer source start
    with all items of the shorter one, and its label table says of the names of the shorter one
    exactly what the table of that says. -/
theorem assemble_append (c : Config) (texts more : List Bytes) (p q : Program)
    (hp : assemble c texts = .ok p) (hq : assemble c (texts ++ more) = .ok q)
    (hnew : ∀ text ∈ more, ∀ name, Source.label? text = some name → name ∉ p.labels.names) :
    p.items <+: q.items ∧ q.labels.restrict p.labels.names = p.labels := by
  obtain ⟨l, s, hlayout, hassembly, rfl⟩ := assemble_eq_ok.mp hp
  obtain ⟨l', s', hlayout', hassembly', rfl⟩ := assemble_eq_ok.mp hq
  rw [SourceLine.ofTexts_eq, SourceLine.linesFrom_append] at hlayout' hassembly'
  -- the first pass is behind the shorter source where it was before
  obtain ⟨l₁, hfront, hbehind⟩ := foldlM_append_eq_ok.mp hlayout'
  cases hlayout.symm.trans hfront
  have hlabels : l'.labels.restrict l.labels.names = l.labels := by
    rw [Layout.restrict_of_run hbehind, LabelTable.restrict_names]
    intro line hline name hname
    obtain ⟨-, text, htext, heq⟩ := SourceLine.getElem?_of_mem hline
    rw [heq] at hname
    exact hnew text (List.mem_of_getElem? htext) name hname
  -- and so is the second, which sees the larger table
  have hsame := Assembly.run_of_extends (LabelTable.extends_of_restrict hlabels) hassembly
  obtain ⟨s₁, hfront', hbehind'⟩ := foldlM_append_eq_ok.mp hassembly'
  cases hsame.symm.trans hfront'
  obtain ⟨ds, cs, hemits⟩ := Assembly.emits_of_run hbehind'
  refine ⟨⟨ds ++ cs, ?_⟩, hlabels⟩
  show s.items.reverse ++ (ds ++ cs) = s'.items.reverse
  rw [hemits.items, List.reverse_append, List.reverse_reverse]

/-- Lines behind `pointerSource` that define and use a label of their own. -/
def loopTail : List Bytes := ["loop: nop", "movi bx,@loop", "out ax,@port"].map Bytes.ofString

/-- What `pointerSource` assembles to with these lines behind it. -/
def loopProgram : Program where
  items := pointerProgram.items ++
    [⟨6, Bytes.ofString "loop: nop", 0x206, none, some (.derive ⟨0⟩ .none .none)⟩,
      ⟨7, Bytes.ofString "movi bx,@loop", 0x208, none,
        some (.derive .movi (.ofRegister ⟨4⟩) (.large 0x206))⟩,
      ⟨8, Bytes.ofString "out ax,@port", 0x20c, none,
        some (.derive ⟨18⟩ (.ofRegister ⟨1⟩) (.short 0x10))⟩]
  labels := pointerProgram.labels.insert (Bytes.ofString "loop") ⟨0x206, .code⟩

theorem assemble_append_loopTail :
    assemble portConfig pointerSource = .ok pointerProgram ∧
    assemble portConfig (pointerSource ++ loopTail) = .ok loopProgram ∧
    pointerProgram.items <+: loopProgram.items ∧
    loopProgram.labels.restrict pointerProgram.labels.names = pointerProgram.labels := by
  have hp : assemble portConfig pointerSource = .ok pointerProgram := by decide +kernel
  have hq : assemble portConfig (pointerSource ++ loopTail) = .ok loopProgram := by decide +kernel
  have hnew : ∀ text ∈ loopTail, ∀ name, Source.label? text = some name →
      name ∉ pointerProgram.labels.names := by
    intro text htext name hname hmem
    have hall : ∀ text ∈ loopTail, ∀ name ∈ pointerProgram.labels.names,
        Source.label? text ≠ some name := by decide +kernel
    exact hall text htext name hmem hname
  exact ⟨hp, hq, assemble_append portConfig pointerSource loopTail pointerProgram loopProgram hp hq hnew⟩

end TwoPass
