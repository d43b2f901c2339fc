/-!
# Open enumerations — numbers of which the first few have names

Registers, opcodes, operand kinds, operand shapes and sections are numbers.  Every
integer is a value of such a type; those in range have a name, and the others are
written as the type applied to the number, as in `Register(42)`.
-/

namespace TwoPass

/-- The name of a type of numbers, and the names of its values from zero on. -/
structure Enumeration where
  type : String
  names : List String

namespace Enumeration

/-- The entry of a table that an integer stands for, if it is in range. -/
def lookup? {α : Type} (table : List α) (n : Int) : Option α :=
  if 0 ≤ n then table[n.toNat]? else none

/-- How a value is written. -/
def name (e : Enumeration) (n : Int) : String :=
  (lookup? e.names n).getD s!"{e.type}({n})"

end Enumeration

end TwoPass
