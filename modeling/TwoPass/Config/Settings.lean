import TwoPass.Config
import TwoPass.Fault
import TwoPass.Source.Label

/-!
# Settings — a configuration out of named values

Two settings are addresses and one is a table of labels; what has any other name is left
alone.  Settings are looked at in a fixed order, the table entry by entry, and the first
that does not fit is the fault.
-/

namespace TwoPass

/-- A value as far as a configuration can use it.  The entries of a table stand in their
    order; a key that is no text or a value that is no whole number has none. -/
inductive Setting where
  | number (value : Int)
  | table (entries : List (Option Bytes × Option Int))
  | other
  deriving DecidableEq, Repr

namespace Setting

/-- The whole number of a setting, if it is one. -/
def number? : Setting → Option Int
  | number n => some n
  | _ => none

/-- A whole number as an address of 16 bits.  The name is the one that is at fault if it is
    none. -/
def address (name : Bytes) : Option Int → Except Fault (BitVec 16)
  | none => .error (.configValue name)
  | some n => if 0 ≤ n && n ≤ 0xFFFF then .ok (BitVec.ofInt 16 n) else .error (.configValue name)

/-- The name of the address of the first data byte. -/
def dataName : Bytes := Bytes.ofString "data_base"

/-- The name of the address of the first instruction. -/
def codeName : Bytes := Bytes.ofString "code_base"

/-- The name of the table of labels. -/
def symbolsName : Bytes := Bytes.ofString "symbols"

/-- One label of the table. -/
def symbol : Option Bytes × Option Int → Except Fault (Bytes × BitVec 16)
  | (none, _) => .error (.configValue symbolsName)
  | (some name, value) => do
    Label.check name
    return (name, ← address name value)

/-- The labels of the table. -/
def symbolTable : Setting → Except Fault (List (Bytes × BitVec 16))
  | table entries => entries.mapM symbol
  | _ => .error (.configValue symbolsName)

end Setting

namespace Config

/-- The configuration that settings describe. -/
def ofSettings (settings : List (Bytes × Setting)) : Except Fault Config := do
  let dataBase ← match settings.lookup Setting.dataName with
    | none => pure default.dataBase
    | some s => Setting.address Setting.dataName s.number?
  let codeBase ← match settings.lookup Setting.codeName with
    | none => pure default.codeBase
    | some s => Setting.address Setting.codeName s.number?
  let symbols ← match settings.lookup Setting.symbolsName with
    | none => pure none
    | some s => some <$> s.symbolTable
  return ⟨dataBase, codeBase, symbols⟩

end Config

end TwoPass
