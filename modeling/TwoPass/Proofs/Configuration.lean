import TwoPass.Config.Load
import TwoPass.Proofs.Passes.Declarations
import Mathlib.Data.List.Nodup

/-!
# Configuration — what the variables of a script come to

A script leaves behind the values of its variables, and three of them are settings.  `Describes`
says which configuration they come to, in terms of the values alone: an address is taken up as the
very number that it is, and every item of the table becomes one label.  `Offends` goes through the
conditions in the order in which they are looked at, and gives the fault of the first one that
fails.

Each function is decided by one lemma, from a single address up to all settings
(`ofSettings_decides`); the order of the faults comes out of the way in which they are put together.
-/

namespace TwoPass

namespace Script.Value

/-- A whole number in the range of addresses. -/
def IsAddress (v : Value) : Prop := ∃ n : Int, v = .integer n ∧ 0 ≤ n ∧ n ≤ 65535

/-- The addresses are the numbers of sixteen bits. -/
theorem isAddress_iff {v : Value} : v.IsAddress ↔ ∃ a : BitVec 16, v = .integer a.toNat := by
  constructor
  · rintro ⟨n, rfl, hpos, hle⟩
    refine ⟨BitVec.ofNat 16 n.toNat, ?_⟩
    rw [BitVec.toNat_ofNat]
    congr 1
    omega
  · rintro ⟨a, rfl⟩
    have hlt := a.isLt
    exact ⟨a.toNat, rfl, by omega, by omega⟩

end Script.Value

namespace Setting

open Script

theorem integer?_eq_some {v : Value} {n : Int} : integer? v = some n ↔ v = .integer n := by
  cases v <;> simp [integer?]

theorem text?_eq_some {v : Value} {s : Bytes} : text? v = some s ↔ v = .text s := by
  cases v <;> simp [text?]

/-- A setting is a number if the value is one. -/
theorem number?_ofValue (store : Store) (v : Value) : (ofValue store v).number? = integer? v := by
  cases v <;> rfl

/-- The variables of a script are found among the settings. -/
theorem lookup_ofVariables (store : Store) (cell : Nat) (name : Bytes) :
    (ofVariables store cell).lookup name = (store.valueOf? ⟨cell, 0⟩ name).map (ofValue store) := by
  rw [ofVariables, Store.valueOf?]
  induction store.slots cell with
  | nil => rfl
  | cons v slots ih =>
      rw [List.findSome?_cons]
      -- variables of inner blocks and those without a value are passed over on both sides
      by_cases hblock : v.block = 0
      · cases hvalue : v.value with
        | none =>
            rw [List.filterMap_cons_none (by rw [if_pos hblock, hvalue]; rfl), ih, ite_self]
        | some value =>
            rw [List.filterMap_cons_some (by rw [if_pos hblock, hvalue]; rfl), List.lookup_cons]
            by_cases hname : v.name = name
            · simp [hname, hblock]
            · have hne : (name == v.name) = false := beq_false_of_ne (Ne.symm hname)
              rw [hne, ih]
              simp [hname]
      · rw [List.filterMap_cons_none (by rw [if_neg hblock]), ih]
        simp [hblock]

/-- An address is given by the value that is this very number. -/
theorem address_decides (name : Bytes) (v : Value) :
    Decides (address name (integer? v)) (fun a => v = .integer a.toNat)
      fun f => ¬ v.IsAddress ∧ f = .configValue name := by
  refine .of_cases ?_ ?_ ?_
  · rintro a rfl
    -- a number of sixteen bits passes the check and is not changed by the conversion
    have hlt := a.isLt
    have hfits : (0 ≤ (a.toNat : Int) && (a.toNat : Int) ≤ 0xFFFF) = true := by
      rw [Bool.and_eq_true, decide_eq_true_iff, decide_eq_true_iff]
      omega
    rw [integer?, address, if_pos hfits, BitVec.ofInt_natCast, BitVec.ofNat_toNat,
      BitVec.setWidth_eq]
  · rintro f ⟨hnot, rfl⟩
    cases hv : integer? v with
    | none => rfl
    | some n =>
        rw [address, if_neg]
        rw [Bool.and_eq_true, decide_eq_true_iff, decide_eq_true_iff]
        exact fun hfits => hnot ⟨n, integer?_eq_some.mp hv, hfits⟩
  · by_cases hv : v.IsAddress
    · exact Or.inl (Value.isAddress_iff.mp hv)
    · exact Or.inr ⟨_, hv, rfl⟩

end Setting

namespace Config

open Script

/-- An item of a table that is a label: its key is a name, and its value an address. -/
def IsSymbol (item : Value × Value) : Prop :=
  ∃ name, item.1 = .text name ∧ Label.isIdentifier name = true ∧ item.2.IsAddress

/-- The label that an item of a table stands for. -/
def Names (item : Value × Value) (symbol : Bytes × BitVec 16) : Prop :=
  item = (.text symbol.1, .integer symbol.2.toNat) ∧ Label.isIdentifier symbol.1 = true

/-- What is wrong with an item of a table, its key before its value. -/
inductive Misfits : Value × Value → Fault → Prop
  | key {key value : Value} (h : ∀ name, key ≠ .text name) :
      Misfits (key, value) (.configValue Setting.symbolsName)
  | name {name : Bytes} {value : Value} (h : Label.isIdentifier name = false) :
      Misfits (.text name, value) (.labelInvalid name)
  | value {name : Bytes} {value : Value} (hname : Label.isIdentifier name = true)
      (h : ¬ value.IsAddress) : Misfits (.text name, value) (.configValue name)

/-- An item is fit for a label exactly if there is a label that it names. -/
theorem isSymbol_iff {item : Value × Value} : IsSymbol item ↔ ∃ symbol, Names item symbol := by
  obtain ⟨key, value⟩ := item
  constructor
  · rintro ⟨name, rfl, hname, hvalue⟩
    obtain ⟨a, rfl⟩ := Value.isAddress_iff.mp hvalue
    exact ⟨(name, a), rfl, hname⟩
  · rintro ⟨⟨name, a⟩, hitem, hname⟩
    obtain ⟨rfl, rfl⟩ := Prod.mk.inj hitem
    exact ⟨name, rfl, hname, Value.isAddress_iff.mpr ⟨a, rfl⟩⟩

/-- The key is looked at first, then the name that it is, and then the value. -/
theorem symbol_decides (item : Value × Value) :
    Decides (Setting.symbol (Setting.text? item.1, Setting.integer? item.2)) (Names item)
      (Misfits item) := by
  obtain ⟨key, value⟩ := item
  refine .of_cases ?_ ?_ ?_
  · -- a label passes both checks
    rintro ⟨name, a⟩ ⟨hitem, hname⟩
    obtain ⟨rfl, rfl⟩ := Prod.mk.inj hitem
    refine bind_eq_ok.mpr ⟨(), Label.check_eq_ok.mpr hname, ?_⟩
    exact bind_eq_ok.mpr ⟨a, ((Setting.address_decides name _).ok_iff a).mpr rfl, rfl⟩
  · -- each misfit is found by the check of its own, those before it being passed
    intro f hf
    cases hf with
    | key h =>
        have hkey : Setting.text? key = none := by
          rw [Option.eq_none_iff_forall_ne_some]
          exact fun name hname => h name (Setting.text?_eq_some.mp hname)
        rw [hkey]
        rfl
    | name h =>
        refine bind_eq_error.mpr (Or.inl ?_)
        rw [Label.check, h]
        rfl
    | @value name _ hname h =>
        refine bind_eq_error.mpr (Or.inr ⟨(), Label.check_eq_ok.mpr hname, ?_⟩)
        refine bind_eq_error.mpr (Or.inl ?_)
        exact ((Setting.address_decides name value).error_iff _).mpr ⟨h, rfl⟩
  · -- an item that fails none of the three is a label
    by_cases hkey : ∃ name, key = .text name
    · obtain ⟨name, rfl⟩ := hkey
      cases hname : Label.isIdentifier name with
      | false => exact Or.inr ⟨_, .name hname⟩
      | true =>
          by_cases hvalue : value.IsAddress
          · exact Or.inl (isSymbol_iff.mp ⟨name, rfl, hname, hvalue⟩)
          · exact Or.inr ⟨_, .value hname hvalue⟩
    · exact Or.inr ⟨_, .key (not_exists.mp hkey)⟩

/-! ## The three variables -/

/-- The address that a variable sets. -/
inductive Sets (fallback : BitVec 16) : Option Value → BitVec 16 → Prop
  | unassigned : Sets fallback none fallback
  | assigned {a : BitVec 16} : Sets fallback (some (.integer a.toNat)) a

/-- The labels that a variable lists, one for each item of its dictionary and in their order. -/
inductive Lists (store : Store) : Option Value → Option (List (Bytes × BitVec 16)) → Prop
  | unassigned : Lists store none none
  | assigned {dict : Nat} {symbols : List (Bytes × BitVec 16)}
      (h : List.Forall₂ Names (store.entries dict) symbols) :
      Lists store (some (.dict dict)) (some symbols)

/-- What is wrong with the table of labels: it is no dictionary, or an item does not fit and all
    items before it do. -/
inductive Unlisted (store : Store) : Option Value → Fault → Prop
  | kind {v : Value} (h : ∀ dict, v ≠ .dict dict) :
      Unlisted store (some v) (.configValue Setting.symbolsName)
  | item {dict : Nat} {before behind : List (Value × Value)} {item : Value × Value} {f : Fault}
      (hitems : store.entries dict = before ++ item :: behind)
      (hbefore : ∀ i ∈ before, IsSymbol i) (h : Misfits item f) :
      Unlisted store (some (.dict dict)) f

/-- There is a base exactly if none is assigned or it is an address. -/
theorem exists_sets_iff {fallback : BitVec 16} {o : Option Value} :
    (∃ a, Sets fallback o a) ↔ ∀ v ∈ o, v.IsAddress := by
  cases o with
  | none => exact iff_of_true ⟨_, .unassigned⟩ nofun
  | some v =>
      constructor
      · rintro ⟨a, ⟨⟩⟩ _ ⟨⟩
        exact Value.isAddress_iff.mpr ⟨a, rfl⟩
      · intro h
        obtain ⟨a, rfl⟩ := Value.isAddress_iff.mp (h v rfl)
        exact ⟨a, .assigned⟩

/-- There is a table exactly if none is assigned or all its items are fit for labels. -/
theorem exists_lists_iff {store : Store} {o : Option Value} :
    (∃ symbols, Lists store o symbols) ↔
      ∀ v ∈ o, ∃ dict, v = .dict dict ∧ ∀ item ∈ store.entries dict, IsSymbol item := by
  cases o with
  | none => exact iff_of_true ⟨_, .unassigned⟩ nofun
  | some v =>
      constructor
      · rintro ⟨_, ⟨⟩ | ⟨h⟩⟩ _ ⟨⟩
        refine ⟨_, rfl, fun item hitem => ?_⟩
        obtain ⟨symbol, -, hnames⟩ := exists_of_mem_forall₂ h hitem
        exact isSymbol_iff.mpr ⟨symbol, hnames⟩
      · intro h
        obtain ⟨dict, rfl, hitems⟩ := h v rfl
        obtain ⟨symbols, h⟩ := exists_forall₂ fun item hitem => isSymbol_iff.mp (hitems item hitem)
        exact ⟨_, .assigned h⟩

/-- The address that a variable sets, or the one used where none is set. -/
def baseOf (fallback : BitVec 16) (name : Bytes) : Option Value → Except Fault (BitVec 16)
  | none => .ok fallback
  | some v => Setting.address name (Setting.integer? v)

/-- The labels that a variable lists, if it is assigned. -/
def symbolsOf (store : Store) : Option Value → Except Fault (Option (List (Bytes × BitVec 16)))
  | none => .ok none
  | some v => (Setting.ofValue store v).symbolTable.map some

/-- A base is taken up, or blamed under its own name. -/
theorem baseOf_decides (fallback : BitVec 16) (name : Bytes) (o : Option Value) :
    Decides (baseOf fallback name o) (Sets fallback o)
      fun f => (∃ v ∈ o, ¬ v.IsAddress) ∧ f = .configValue name := by
  cases o with
  | none =>
      refine .of_cases ?_ ?_ (Or.inl ⟨_, .unassigned⟩)
      · rintro a ⟨⟩
        rfl
      · rintro f ⟨⟨v, ⟨⟩, -⟩, -⟩
  | some v =>
      refine (Setting.address_decides name v).congr ?_ ?_
      · intro a
        constructor
        · rintro rfl
          exact .assigned
        · rintro ⟨⟩
          rfl
      · intro f
        simp

/-- A table is taken up item by item, or the first item that is not fit is blamed. -/
theorem symbolsOf_decides (store : Store) (o : Option Value) :
    Decides (symbolsOf store o) (Lists store o) (Unlisted store o) := by
  cases o with
  | none =>
      -- a variable that is not assigned lists nothing and offends no one
      refine .of_cases ?_ ?_ (Or.inl ⟨_, .unassigned⟩)
      · rintro symbols ⟨⟩
        rfl
      · rintro f ⟨⟩
  | some v =>
      by_cases hdict : ∃ dict, v = .dict dict
      · obtain ⟨dict, rfl⟩ := hdict
        -- a dictionary is looked at item by item, so the decision on one item gives that on all
        have htable : (Setting.ofValue store (.dict dict)).symbolTable =
            (store.entries dict).mapM fun item =>
              Setting.symbol (Setting.text? item.1, Setting.integer? item.2) := List.mapM_map
        rw [symbolsOf, htable]
        refine ((Decides.mapM symbol_decides (store.entries dict)).map some).congr ?_ ?_
        · intro symbols
          constructor
          · rintro ⟨listed, h, rfl⟩
            exact .assigned h
          · rintro ⟨⟩
            exact ⟨_, ‹_›, rfl⟩
        · intro f
          -- the first item that fails has only labels in front of it
          simp only [← isSymbol_iff]
          constructor
          · rintro ⟨before, item, behind, hitems, hbefore, h⟩
            exact .item hitems hbefore h
          · rintro (⟨hnot⟩ | ⟨hitems, hbefore, h⟩)
            · exact absurd rfl (hnot dict)
            · exact ⟨_, _, _, hitems, hbefore, h⟩
      · -- any other value is refused as a whole
        have hnot := not_exists.mp hdict
        have htable : (Setting.ofValue store v).symbolTable =
            .error (.configValue Setting.symbolsName) := by
          cases v with
          | dict dict => exact absurd rfl (hnot dict)
          | _ => rfl
        rw [symbolsOf, htable]
        refine .of_cases ?_ ?_ (Or.inr ⟨_, .kind hnot⟩)
        · rintro symbols ⟨⟩
          exact absurd rfl (hnot _)
        · rintro f (⟨-⟩ | ⟨hitems, hbefore, h⟩)
          · rfl
          · exact absurd rfl (hnot _)

/-! ## The whole configuration -/

section Globals

variable (store : Store) (cell : Nat)

/-- The value of a variable at the end of a script, if it is assigned. -/
def global? (name : Bytes) : Option Value := store.valueOf? ⟨cell, 0⟩ name

/-- Variables that can be taken up: the bases are addresses where they are assigned, and so is a
    dictionary of names and addresses. -/
structure Accepted : Prop where
  dataBase : ∀ v ∈ global? store cell Setting.dataName, v.IsAddress
  codeBase : ∀ v ∈ global? store cell Setting.codeName, v.IsAddress
  symbols : ∀ v ∈ global? store cell Setting.symbolsName,
    ∃ dict, v = .dict dict ∧ ∀ item ∈ store.entries dict, IsSymbol item

/-- The configuration that variables describe. -/
structure Describes (c : Config) : Prop where
  dataBase : Sets 0x9000 (global? store cell Setting.dataName) c.dataBase
  codeBase : Sets 0x5800 (global? store cell Setting.codeName) c.codeBase
  symbols : Lists store (global? store cell Setting.symbolsName) c.symbols

/-- The fault of the first variable that cannot be taken up. -/
inductive Offends : Fault → Prop
  | dataBase (h : ∃ v ∈ global? store cell Setting.dataName, ¬ v.IsAddress) :
      Offends (.configValue Setting.dataName)
  | codeBase (hdata : ∀ v ∈ global? store cell Setting.dataName, v.IsAddress)
      (h : ∃ v ∈ global? store cell Setting.codeName, ¬ v.IsAddress) :
      Offends (.configValue Setting.codeName)
  | symbols {f : Fault} (hdata : ∀ v ∈ global? store cell Setting.dataName, v.IsAddress)
      (hcode : ∀ v ∈ global? store cell Setting.codeName, v.IsAddress)
      (h : Unlisted store (global? store cell Setting.symbolsName) f) : Offends f

/-- The variables are looked at one after the other. -/
theorem ofSettings_eq :
    ofSettings (Setting.ofVariables store cell) =
      baseOf 0x9000 Setting.dataName (global? store cell Setting.dataName) >>= fun dataBase =>
      baseOf 0x5800 Setting.codeName (global? store cell Setting.codeName) >>= fun codeBase =>
      (symbolsOf store (global? store cell Setting.symbolsName)).map fun symbols =>
        ⟨dataBase, codeBase, symbols⟩ := by
  rw [ofSettings]
  simp only [Setting.lookup_ofVariables, global?]
  cases store.valueOf? ⟨cell, 0⟩ Setting.dataName <;>
    cases store.valueOf? ⟨cell, 0⟩ Setting.codeName <;>
    cases store.valueOf? ⟨cell, 0⟩ Setting.symbolsName <;>
    simp only [Option.map_none, Option.map_some, Setting.number?_ofValue] <;> rfl

/-- All settings together: the two bases and then the table. -/
theorem ofSettings_decides :
    Decides (ofSettings (Setting.ofVariables store cell)) (Describes store cell)
      (Offends store cell) := by
  -- three decisions in a row: a later one is reached only if those before it went well
  rw [ofSettings_eq]
  refine ((baseOf_decides _ _ _).bind fun dataBase => (baseOf_decides _ _ _).bind fun codeBase =>
    (symbolsOf_decides _ _).map _).congr ?_ ?_
  · intro c
    constructor
    · rintro ⟨dataBase, hdata, codeBase, hcode, symbols, hsymbols, rfl⟩
      exact ⟨hdata, hcode, hsymbols⟩
    · rintro ⟨hdata, hcode, hsymbols⟩
      exact ⟨_, hdata, _, hcode, _, hsymbols, rfl⟩
  · intro f
    constructor
    · rintro (⟨hdata, rfl⟩ | ⟨dataBase, hdata, ⟨hcode, rfl⟩ | ⟨codeBase, hcode, hsymbols⟩⟩)
      · exact .dataBase hdata
      · exact .codeBase (exists_sets_iff.mp ⟨_, hdata⟩) hcode
      · exact .symbols (exists_sets_iff.mp ⟨_, hdata⟩) (exists_sets_iff.mp ⟨_, hcode⟩) hsymbols
    · intro h
      cases h with
      | dataBase h => exact Or.inl ⟨h, rfl⟩
      | codeBase hdata h =>
          obtain ⟨dataBase, hdata⟩ := exists_sets_iff.mpr hdata
          exact Or.inr ⟨dataBase, hdata, Or.inl ⟨h, rfl⟩⟩
      | symbols hdata hcode h =>
          obtain ⟨dataBase, hdata⟩ := exists_sets_iff.mpr hdata
          obtain ⟨codeBase, hcode⟩ := exists_sets_iff.mpr hcode
          exact Or.inr ⟨dataBase, hdata, Or.inr ⟨codeBase, hcode, h⟩⟩

/-- Variables describe a configuration exactly if they can be taken up. -/
theorem exists_describes_iff : (∃ c, Describes store cell c) ↔ Accepted store cell := by
  constructor
  · rintro ⟨c, hdata, hcode, hsymbols⟩
    exact ⟨exists_sets_iff.mp ⟨_, hdata⟩, exists_sets_iff.mp ⟨_, hcode⟩,
      exists_lists_iff.mp ⟨_, hsymbols⟩⟩
  · rintro ⟨hdata, hcode, hsymbols⟩
    obtain ⟨dataBase, hdata⟩ := exists_sets_iff.mpr hdata
    obtain ⟨codeBase, hcode⟩ := exists_sets_iff.mpr hcode
    obtain ⟨symbols, hsymbols⟩ := exists_lists_iff.mpr hsymbols
    exact ⟨⟨dataBase, codeBase, symbols⟩, hdata, hcode, hsymbols⟩

end Globals

/-- The items that labels were taken from. -/
theorem eq_map_of_names {items : List (Value × Value)} {symbols : List (Bytes × BitVec 16)}
    (h : List.Forall₂ Names items symbols) :
    items = symbols.map fun symbol => (.text symbol.1, .integer symbol.2.toNat) := by
  induction h with
  | nil => rfl
  | cons hitem _ ih => rw [List.map_cons, ← ih, ← hitem.1]

/-- A label that is listed once stands for its address. -/
theorem address?_eq_some {c : Config} {name : Bytes} {a : BitVec 16} (h : c.names.Nodup) :
    c.address? name = some a ↔ (name, a) ∈ c.symbols.getD [] := by
  rw [address?, List.findRev?_eq_find?_reverse, Option.map_eq_some_iff]
  constructor
  · rintro ⟨⟨name', a'⟩, hfind, rfl⟩
    obtain rfl : name' = name := of_decide_eq_true (List.find?_some hfind :)
    exact List.mem_reverse.mp (List.mem_of_find?_eq_some hfind)
  · intro hmem
    cases hfind : (c.symbols.getD []).reverse.find? fun entry => entry.1 = name with
    | none =>
        have hnot := List.find?_eq_none.mp hfind (name, a) (List.mem_reverse.mpr hmem)
        exact absurd (decide_eq_true rfl) hnot
    | some found =>
        have hname : found.1 = name := of_decide_eq_true (List.find?_some hfind :)
        have hfound := List.mem_reverse.mp (List.mem_of_find?_eq_some hfind)
        rw [List.inj_on_of_nodup_map h hfound hmem hname]
        exact ⟨_, rfl, rfl⟩

/-- Items with different keys are different labels, and there are no others. -/
theorem find?_of_describes {store : Store} {cell : Nat} {c : Config} {dict : Nat}
    (h : Describes store cell c)
    (hdict : global? store cell Setting.symbolsName = some (.dict dict))
    (hkeys : ((store.entries dict).map Prod.fst).Nodup) (name : Bytes) (symbol : Symbol) :
    c.labels.find? name = some symbol ↔
      ∃ n : Int, (.text name, .integer n) ∈ store.entries dict ∧ symbol = ⟨n, .absolute⟩ := by
  obtain ⟨dataBase, codeBase, listed⟩ := c
  have hsymbols := h.symbols
  rw [hdict] at hsymbols
  cases hsymbols with
  | @assigned _ symbols hnames =>
      rw [eq_map_of_names hnames] at hkeys ⊢
      have hnodup : (Config.mk dataBase codeBase (some symbols)).names.Nodup := by
        rw [List.map_map] at hkeys
        exact List.Nodup.of_map Value.text (by rwa [names, List.map_map])
      rw [find?_labels, Option.map_eq_some_iff]
      constructor
      · rintro ⟨a, ha, rfl⟩
        exact ⟨a.toNat, List.mem_map.mpr ⟨_, (address?_eq_some hnodup).mp ha, rfl⟩, rfl⟩
      · rintro ⟨n, hitem, rfl⟩
        obtain ⟨⟨name', a⟩, hmem, heq⟩ := List.mem_map.mp hitem
        cases heq
        exact ⟨a, (address?_eq_some hnodup).mpr hmem, rfl⟩

/-- **WHAT A CONFIGURATION SCRIPT COMES TO.**  Whatever values its variables have at its end, there
    is a configuration exactly if the bases, where they are assigned, are numbers from 0 to 65535
    and the table, where it is assigned, is a dictionary of label names and such numbers.  It has
    these very numbers, the usual bases where none are assigned, and one label for each item; items
    with different keys are different labels.  Which interpreter gives the values does not matter.

    Otherwise the fault is that of the first entry that does not fit: the data base, the code base,
    the table, and then item by item the kind of the key, the name and the value. -/
theorem settings_taken_up (store : Store) (cell : Nat) :
    ((∃ c, ofSettings (Setting.ofVariables store cell) = .ok c) ↔ Accepted store cell) ∧
    (∀ c, ofSettings (Setting.ofVariables store cell) = .ok c ↔ Describes store cell c) ∧
    (∀ f, ofSettings (Setting.ofVariables store cell) = .error f ↔ Offends store cell f) ∧
    (∀ c dict, ofSettings (Setting.ofVariables store cell) = .ok c →
      global? store cell Setting.symbolsName = some (.dict dict) →
      ((store.entries dict).map Prod.fst).Nodup → ∀ name symbol,
        c.labels.find? name = some symbol ↔
          ∃ n : Int, (.text name, .integer n) ∈ store.entries dict ∧ symbol = ⟨n, .absolute⟩) ∧
    ∀ interpret source, (interpret predeclared source).result = .ok (store, cell) →
      (load interpret source).result =
        (ofSettings (Setting.ofVariables store cell)).mapError .fault := by
  have hdecides := ofSettings_decides store cell
  refine ⟨?_, hdecides.ok_iff, hdecides.error_iff, ?_, ?_⟩
  · rw [← exists_describes_iff]
    exact exists_congr hdecides.ok_iff
  · intro c dict hc hdict hkeys
    exact find?_of_describes ((hdecides.ok_iff c).mp hc) hdict hkeys
  · intro interpret source hrun
    rw [load]
    simp only [hrun]

-- a number whose last 64 bits are those of 5 is no address
example : ofSettings [(Setting.codeName, .number 18446744073709551621)] =
    .error (.configValue Setting.codeName) := rfl

end Config

end TwoPass
