import TwoPass.Source.Section

/-!
# Label tables

A label table maps names to addresses.  It has no order of its own: what is shown of it
is sorted by address, and by name where addresses are equal.
-/

namespace TwoPass

/-- What a label stands for. -/
structure Symbol where
  address : Int
  space : Section
  deriving DecidableEq, Repr

/-- A label and what it stands for. -/
structure SymbolEntry where
  name : Bytes
  symbol : Symbol
  deriving DecidableEq, Repr

/-- A finite map from names to symbols, as entries with different names. -/
structure LabelTable where
  entries : List SymbolEntry
  deriving DecidableEq, Repr, Inhabited

namespace LabelTable

/-- The table without labels. -/
def empty : LabelTable := ⟨[]⟩

/-- What a name stands for. -/
def find? (t : LabelTable) (name : Bytes) : Option Symbol :=
  (t.entries.find? fun e => e.name = name).map SymbolEntry.symbol

/-- The address of a label. -/
def address? (t : LabelTable) (name : Bytes) : Option Int := (t.find? name).map Symbol.address

/-- The table in which a name stands for a symbol, whatever it stood for before. -/
def insert (t : LabelTable) (name : Bytes) (symbol : Symbol) : LabelTable :=
  ⟨⟨name, symbol⟩ :: t.entries.filter fun e => e.name ≠ name⟩

/-- The table of a list of entries, of which a later one replaces an earlier one of the
    same name. -/
def ofList (entries : List SymbolEntry) : LabelTable :=
  entries.foldl (fun t e => t.insert e.name e.symbol) empty

/-- The number of labels. -/
def size (t : LabelTable) : Nat := t.entries.length

/-- By address, then by name. -/
def le (x y : SymbolEntry) : Bool :=
  x.symbol.address < y.symbol.address
    || (x.symbol.address == y.symbol.address && Bytes.le x.name y.name)

/-- The entries in the order in which they are shown. -/
def symbols (t : LabelTable) : List SymbolEntry := t.entries.mergeSort le

end LabelTable

end TwoPass
