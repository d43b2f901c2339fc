import Mathlib.Data.List.Nodup
import TwoPass.Proofs.Passes.Declarations
import TwoPass.Proofs.Symbols.Map

/-!
# The order of symbols — one for each table

A label table can be gone through in many orders, and what is shown of it must not tell which.
Rows are put in order by address, and by name where addresses are equal.  The names of a table are
different, so no two of its rows are level (`Entry.before_or_before`), and only one increasing list
of rows shows the table (`Shows.unique`).  The sorted labels are that list in whichever order they
were taken (`symbols_congr`).  Symbol maps and what a run tells of its labels are put together from
the sorted labels, so they do not depend on the order either.
-/

namespace TwoPass

attribute [ext] SymbolEntry SymbolMap.Entry

/-- Bytewise order as a relation. -/
theorem Bytes.le_iff {a b : Bytes} : Bytes.le a b = true ↔ ¬ b < a := by
  rw [Bytes.le, Bool.not_eq_true', List.lex_eq_false_iff_ge, List.not_lt]

/-! ## Rows in order -/

namespace SymbolMap

namespace Entry

/-- By address, and by name byte for byte where the addresses are equal. -/
def Before (x y : Entry) : Prop :=
  x.address < y.address ∨ x.address = y.address ∧ x.name < y.name

instance (x y : Entry) : Decidable (x.Before y) := inferInstanceAs (Decidable (_ ∨ _))

variable {x y z : Entry}

/-- Of two symbols at most one is in front. -/
theorem Before.asymm (h : x.Before y) : ¬ y.Before x := by
  rcases h with h | ⟨h, hname⟩
  · rintro (h' | ⟨h', -⟩) <;> omega
  · rintro (h' | ⟨-, hname'⟩)
    · omega
    · exact List.lt_asymm hname hname'

/-- A third row cannot be level with both of two rows of which one is before the other. -/
theorem Before.or_before (h : x.Before z) (y : Entry) : x.Before y ∨ y.Before z := by
  rcases h with h | ⟨h, hname⟩
  · by_cases hxy : x.address < y.address
    · exact Or.inl (Or.inl hxy)
    · exact Or.inr (Or.inl (by omega))
  · rcases Int.lt_trichotomy x.address y.address with hxy | hxy | hxy
    · exact Or.inl (Or.inl hxy)
    · -- at one address the names decide
      by_cases hnames : x.name < y.name
      · exact Or.inl (Or.inr ⟨hxy, hnames⟩)
      · exact Or.inr (Or.inr ⟨hxy ▸ h, Std.lt_of_le_of_lt (List.not_lt.mp hnames) hname⟩)
    · exact Or.inr (Or.inl (h ▸ hxy))

/-- Rows with different names are never level. -/
theorem before_or_before (h : x.name ≠ y.name) : x.Before y ∨ y.Before x := by
  rcases Int.lt_trichotomy x.address y.address with hxy | hxy | hxy
  · exact Or.inl (Or.inl hxy)
  · by_cases hnames : x.name < y.name
    · exact Or.inl (Or.inr ⟨hxy, hnames⟩)
    · exact Or.inr (Or.inr ⟨hxy.symm, Std.lt_of_le_of_ne (List.not_lt.mp hnames) h.symm⟩)
  · exact Or.inr (Or.inl hxy)

end Entry

/-- Labels are sorted by what is shown of them. -/
theorem le_iff {e f : SymbolEntry} : LabelTable.le e f = true ↔ ¬ (shown f).Before (shown e) := by
  simp only [LabelTable.le, Bool.or_eq_true, Bool.and_eq_true, decide_eq_true_iff, beq_iff_eq,
    Bytes.le_iff, Entry.Before, shown]
  grind

end SymbolMap

/-! ## Orders of a table -/

namespace LabelTable

open SymbolMap

variable {t : LabelTable} {order other : List SymbolEntry} {e : SymbolEntry}

/-- An order in which a table can be gone through: its labels and what they stand for, each once. -/
structure Enumerated (t : LabelTable) (order : List SymbolEntry) : Prop where
  nodup : order.Nodup
  mem_iff : ∀ e : SymbolEntry, e ∈ order ↔ t.find? e.name = some e.symbol

/-- Rows that show a table: each label once, with its address and the name of its section, and
    nothing else. -/
structure Shows (t : LabelTable) (rows : List Entry) : Prop where
  nodup : rows.Nodup
  mem_iff : ∀ row : Entry, row ∈ rows ↔ ∃ symbol, t.find? row.name = some symbol ∧
    row.address = symbol.address ∧ row.space = Bytes.ofString symbol.space.name

/-- In a table in which no name comes twice, the entries are what is found. -/
theorem mem_entries_iff (h : t.names.Nodup) : e ∈ t.entries ↔ t.find? e.name = some e.symbol := by
  rw [find?, Option.map_eq_some_iff]
  constructor
  · intro he
    have hsome : (t.entries.find? fun f => f.name = e.name).isSome = true :=
      List.find?_isSome.mpr ⟨e, he, decide_eq_true rfl⟩
    obtain ⟨f, hf⟩ := Option.isSome_iff_exists.mp hsome
    have hname := List.find?_some hf
    obtain rfl : f = e :=
      List.inj_on_of_nodup_map h (List.mem_of_find?_eq_some hf) he (of_decide_eq_true hname)
    exact ⟨f, hf, rfl⟩
  · rintro ⟨f, hf, hsymbol⟩
    have hname := List.find?_some hf
    obtain rfl : f = e := SymbolEntry.ext (of_decide_eq_true hname) hsymbol
    exact List.mem_of_find?_eq_some hf

/-- The orders of such a table are those of its entries. -/
theorem enumerated_of_perm (h : t.names.Nodup) (hperm : order.Perm t.entries) :
    t.Enumerated order :=
  ⟨hperm.nodup_iff.mpr (List.Nodup.of_map _ h), fun _ => hperm.mem_iff.trans (mem_entries_iff h)⟩

namespace Enumerated

/-- Two lists of the same symbols differ in the order only. -/
theorem perm (h : t.Enumerated order) (h' : t.Enumerated other) : other.Perm order :=
  (List.perm_ext_iff_of_nodup h'.nodup h.nodup).mpr fun e => (h'.mem_iff e).trans (h.mem_iff e).symm

/-- A name is found with one symbol only, so no name comes twice. -/
theorem nodup_names (h : t.Enumerated order) : (LabelTable.mk order).names.Nodup := by
  refine List.Nodup.map_on ?_ h.nodup
  intro e he f hf hname
  rw [h.mem_iff] at he hf
  rw [hname, hf] at he
  exact SymbolEntry.ext hname (Option.some.inj he).symm

/-- Sorted labels are another order. -/
theorem sorted (h : t.Enumerated order) : t.Enumerated (LabelTable.mk order).symbols := by
  have hperm : (LabelTable.mk order).symbols.Perm order := List.mergeSort_perm order le
  exact ⟨hperm.nodup_iff.mpr h.nodup, fun e => hperm.mem_iff.trans (h.mem_iff e)⟩

/-- A list of all symbols shows each of them. -/
theorem shows (h : t.Enumerated order) : t.Shows (order.map shown) := by
  constructor
  · have hnames : ((order.map shown).map Entry.name).Nodup := by
      rw [List.map_map]
      exact h.nodup_names
    exact List.Nodup.of_map _ hnames
  · intro row
    rw [List.mem_map]
    constructor
    · rintro ⟨e, he, rfl⟩
      exact ⟨e.symbol, (h.mem_iff e).mp he, rfl, rfl⟩
    · rintro ⟨symbol, hfind, haddress, hspace⟩
      exact ⟨⟨row.name, symbol⟩, (h.mem_iff _).mpr hfind, Entry.ext rfl haddress.symm hspace.symm⟩

end Enumerated

/-! ## The one increasing list -/

/-- Sorting never puts a row behind one that it is before. -/
theorem pairwise_symbols (t : LabelTable) :
    t.symbols.Pairwise fun e f => ¬ (shown f).Before (shown e) := by
  refine (List.pairwise_mergeSort ?_ ?_ t.entries).imp le_iff.mp
  -- sorting asks for an order that is transitive and total; level rows are ordered both ways
  · intro e f g hef hfg
    rw [le_iff] at hef hfg ⊢
    intro hge
    exact (hge.or_before (shown f)).elim hfg hef
  · intro e f
    rw [Bool.or_eq_true, le_iff, le_iff]
    by_cases hfe : (shown f).Before (shown e)
    · exact Or.inr hfe.asymm
    · exact Or.inl hfe

/-- Where no name comes twice, the rows increase strictly. -/
theorem increasing_symbols (h : t.names.Nodup) : (t.symbols.map shown).Pairwise Entry.Before := by
  have hnames : (t.symbols.map SymbolEntry.name).Nodup :=
    ((List.mergeSort_perm t.entries le).map SymbolEntry.name).nodup_iff.mpr h
  rw [List.pairwise_map]
  rw [List.nodup_iff_pairwise_ne, List.pairwise_map] at hnames
  refine (hnames.and t.pairwise_symbols).imp ?_
  rintro e f ⟨hne, hlevel⟩
  exact (Entry.before_or_before hne).resolve_right hlevel

/-- Only one increasing list of rows shows a table. -/
theorem Shows.unique {rows rows' : List Entry} (h : t.Shows rows) (h' : t.Shows rows')
    (hrows : rows.Pairwise Entry.Before) (hrows' : rows'.Pairwise Entry.Before) : rows = rows' := by
  have hperm : rows.Perm rows' := (List.perm_ext_iff_of_nodup h.nodup h'.nodup).mpr fun row =>
    (h.mem_iff row).trans (h'.mem_iff row).symm
  exact hperm.eq_of_pairwise (fun _ _ _ _ hxy hyx => absurd hyx hxy.asymm) hrows hrows'

/-- The sorted labels do not tell in which order they were taken. -/
theorem symbols_congr (h : t.Enumerated order) (h' : t.Enumerated other) :
    (LabelTable.mk other).symbols = (LabelTable.mk order).symbols := by
  have hincreasing := List.pairwise_map.mp (increasing_symbols h.nodup_names)
  have hincreasing' := List.pairwise_map.mp (increasing_symbols h'.nodup_names)
  exact (h.sorted.perm h'.sorted).eq_of_pairwise (fun _ _ _ _ hxy hyx => absurd hyx hxy.asymm)
    hincreasing' hincreasing

/-- The map does not depend on the order in which a table holds its symbols. -/
theorem symbolMap_congr (h : t.Enumerated order) (h' : t.Enumerated other) :
    (LabelTable.mk other).symbolMap = (LabelTable.mk order).symbolMap := by
  rw [symbolMap, symbolMap, symbols_congr h h']

end LabelTable

/-! ## What a run tells -/

namespace Assembler

variable {t : LabelTable} {order other : List SymbolEntry}

/-- What is told does not depend on it, either. -/
theorem notes_congr (h : t.Enumerated order) (h' : t.Enumerated other) (lines : List SourceLine)
    (result : Except Fault Program) :
    notes ⟨other⟩ lines result = notes ⟨order⟩ lines result := by
  rw [notes, notes, LabelTable.symbols_congr h h']

/-- What a run tells once its labels are known. -/
theorem log_run {a : Assembler} {texts : List Bytes}
    (h : Layout.resolve a.settings (SourceLine.ofTexts texts) = .ok t) :
    (a.run texts).log =
      if a.verbose then notes t (SourceLine.ofTexts texts) (a.run texts).result else [] := by
  simp only [run, h]

end Assembler

/-- The table of a source has its own entries as an order. -/
theorem Layout.enumerated_of_resolve {c : Config} {lines : List SourceLine} {t : LabelTable}
    (h : resolve c lines = .ok t) : t.Enumerated t.entries := by
  obtain ⟨l, hrun, rfl⟩ := map_eq_ok.mp h
  have hnames := nodup_names_of_run hrun c.nodup_names_labels
  exact LabelTable.enumerated_of_perm hnames (List.Perm.refl _)

/-- **THE ORDER OF SYMBOLS IS CANONICAL.**  In whichever order a table is gone through, its labels
    are shown as the one list of rows that increases strictly by address and then by name and in
    which each label comes once, with its address and the name of its section.  So symbol maps and
    what is told of labels are the same for every order, and what a run writes and tells of its own
    table is what any order of it gives. -/
theorem symbols_canonical (t : LabelTable) (order : List SymbolEntry) (h : t.Enumerated order) :
    (∀ rows : List SymbolMap.Entry, (rows.Pairwise SymbolMap.Entry.Before ∧ t.Shows rows) ↔
      rows = (LabelTable.mk order).symbols.map SymbolMap.shown) ∧
    (∀ other, t.Enumerated other →
      (LabelTable.mk other).symbolMap = (LabelTable.mk order).symbolMap ∧
      ∀ lines result, Assembler.notes ⟨other⟩ lines result = Assembler.notes ⟨order⟩ lines result) ∧
    (∀ (a : Assembler) (texts : List Bytes),
      Layout.resolve a.settings (SourceLine.ofTexts texts) = .ok t →
      t.symbolMap = (LabelTable.mk order).symbolMap ∧
      (a.run texts).log = if a.verbose then
        Assembler.notes ⟨order⟩ (SourceLine.ofTexts texts) (a.run texts).result else []) := by
  refine ⟨fun rows => ⟨?_, ?_⟩, ?_, ?_⟩
  · rintro ⟨hincreasing, hshows⟩
    exact hshows.unique h.sorted.shows hincreasing (LabelTable.increasing_symbols h.nodup_names)
  · rintro rfl
    exact ⟨LabelTable.increasing_symbols h.nodup_names, h.sorted.shows⟩
  · intro other h'
    exact ⟨LabelTable.symbolMap_congr h h', Assembler.notes_congr h h'⟩
  · intro a texts hresolve
    have hentries := Layout.enumerated_of_resolve hresolve
    refine ⟨LabelTable.symbolMap_congr h hentries, ?_⟩
    rw [Assembler.log_run hresolve, ← Assembler.notes_congr h hentries]

/-- A source with three labels at one address, one of them with a capital. -/
def levelSource : List Bytes :=
  ["zeta:", "Beta:", "alpha: .byte 1", ".code", "main: nop"].map Bytes.ofString

/-- Its labels, with the latest in front. -/
def levelTable : LabelTable :=
  ⟨[⟨Bytes.ofString "main", ⟨0x5800, .code⟩⟩, ⟨Bytes.ofString "alpha", ⟨0x9000, .data⟩⟩,
    ⟨Bytes.ofString "Beta", ⟨0x9000, .data⟩⟩, ⟨Bytes.ofString "zeta", ⟨0x9000, .data⟩⟩]⟩

/-- The same labels as they are shown: capitals come before small letters. -/
def levelSymbols : List SymbolEntry :=
  [⟨Bytes.ofString "main", ⟨0x5800, .code⟩⟩, ⟨Bytes.ofString "Beta", ⟨0x9000, .data⟩⟩,
    ⟨Bytes.ofString "alpha", ⟨0x9000, .data⟩⟩, ⟨Bytes.ofString "zeta", ⟨0x9000, .data⟩⟩]

theorem symbols_canonical_levelSource :
    levelTable.Enumerated levelTable.entries.reverse ∧
    (LabelTable.mk levelTable.entries.reverse).symbols.map SymbolMap.shown =
      levelSymbols.map SymbolMap.shown ∧
    Layout.resolve .default (SourceLine.ofTexts levelSource) = .ok levelTable ∧
    levelTable.symbolMap = (LabelTable.mk levelTable.entries.reverse).symbolMap ∧
    (Assembler.run ⟨true, none, none⟩ levelSource).log =
      Assembler.notes ⟨levelTable.entries.reverse⟩ (SourceLine.ofTexts levelSource)
        (Assembler.run ⟨true, none, none⟩ levelSource).result := by
  have hnames : levelTable.names.Nodup := by decide
  have henumerated := LabelTable.enumerated_of_perm hnames (List.reverse_perm levelTable.entries)
  have hshows := (LabelTable.enumerated_of_perm hnames (by decide : levelSymbols.Perm _)).shows
  have hresolve : Layout.resolve .default (SourceLine.ofTexts levelSource) = .ok levelTable := rfl
  obtain ⟨hrows, -, hrun⟩ := symbols_canonical levelTable _ henumerated
  exact ⟨henumerated, ((hrows _).mp ⟨by decide, hshows⟩).symm, hresolve,
    hrun ⟨true, none, none⟩ levelSource hresolve⟩

end TwoPass
