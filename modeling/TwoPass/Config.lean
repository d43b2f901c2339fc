import TwoPass.Symbols.Table

/-!
# Configuration — where sections start, and labels known beforehand
-/

namespace TwoPass

/-- The addresses of the first data byte and the first instruction, and the absolute
    labels.  A configuration that was never given labels is told apart from one that was
    given none. -/
structure Config where
  dataBase : BitVec 16
  codeBase : BitVec 16
  symbols : Option (List (Bytes × BitVec 16))
  deriving DecidableEq, Repr

namespace Config

/-- The memory layout used where none is given. -/
def default : Config := ⟨0x9000, 0x5800, none⟩

/-- The labels known before any line is read. -/
def labels (c : Config) : LabelTable :=
  .ofList ((c.symbols.getD []).map fun (name, address) => ⟨name, ⟨address.toNat, .absolute⟩⟩)

end Config

end TwoPass
