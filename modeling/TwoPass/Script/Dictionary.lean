import Std.Data.TreeMap
import TwoPass.Script.Key

/-!
# Dictionaries — entries in the order in which their keys first came

Entries are numbered as they come.  Beside them stand, for each fingerprint, the numbers of
the entries whose keys have it, so that a key is compared with few others.
-/

namespace TwoPass

namespace Script

/-- A dictionary: its entries by number, and the numbers of the entries by fingerprint. -/
structure Dictionary where
  numbered : Std.TreeMap Nat (Value × Value)
  places : Std.TreeMap UInt64 (List Nat)

namespace Dictionary

/-- The dictionary without entries. -/
def empty : Dictionary := ⟨.empty, .empty⟩

/-- How many entries a dictionary has. -/
def size (d : Dictionary) : Nat := d.numbered.size

/-- The entries in the order in which their keys first came. -/
def toList (d : Dictionary) : List (Value × Value) := d.numbered.toList.map Prod.snd

/-- The numbers of the entries with the fingerprint of a key. -/
def candidates (d : Dictionary) (key : Value) : List Nat := d.places.getD key.fingerprint []

/-- The number of the entry of a key, and the entry. -/
def find? (d : Dictionary) (key : Value) : Option (Nat × Value × Value) :=
  (d.candidates key).findSome? fun n =>
    match d.numbered[n]? with
    | some e => if key.isAlike e.1 then some (n, e) else none
    | none => none

/-- The value of a key.  A key that is nested too deeply to be compared has none. -/
def get? (d : Dictionary) (key : Value) : Option Value :=
  if key.height ≤ compareLimit then (d.find? key).map fun (_, e) => e.2 else none

/-- The dictionary with the value of a key set: in its place, or behind all others.  A key
    that cannot be told from another cannot be set. -/
def insert? (d : Dictionary) (key value : Value) : Option Dictionary :=
  match d.find? key with
  | none => some
      { numbered := d.numbered.insert d.size (key, value)
        places := d.places.insert key.fingerprint (d.size :: d.candidates key) }
  | some (n, e) =>
    if key.height ≤ compareLimit then some { d with numbered := d.numbered.insert n (e.1, value) }
    else none

/-- The dictionary with further entries. -/
def insertAll? (d : Dictionary) (entries : List (Value × Value)) : Option Dictionary :=
  entries.foldlM (fun d e => d.insert? e.1 e.2) d

end Dictionary

end Script

end TwoPass
