import TwoPass.Symbols.Table
import TwoPass.Yaml.Scalar

/-!
# Symbol maps — label tables as YAML documents

A symbol map lists the labels of a table in the order in which they are shown, each with its
name, its address and its section.
-/

namespace TwoPass

namespace LabelTable

/-- One entry of a symbol map. -/
def mapEntry (e : SymbolEntry) : Bytes :=
  Bytes.ofString "    - name: " ++ Yaml.scalar 8 e.name
    ++ Bytes.ofString "      address: " ++ Bytes.decimal e.symbol.address
    ++ Bytes.ofString "\n      section: " ++ Yaml.scalar 8 (Bytes.ofString e.symbol.space.name)

/-- The symbol map of a table. -/
def symbolMap (t : LabelTable) : Bytes :=
  match t.symbols with
  | [] => Bytes.ofString "symbols: []\n"
  | entries => Bytes.ofString "symbols:\n" ++ entries.flatMap mapEntry

end LabelTable

end TwoPass
