import TwoPass.Fault
import TwoPass.Text.Blank

/-!
# Labels

A label stands at the start of a line, in front of the first colon.  What stands there
is a label only if it is a single word that is no directive; it must then be an
identifier.
-/

namespace TwoPass

namespace Label

/-- An identifier: a letter or underscore, then letters, digits and underscores. -/
def isIdentifier : Bytes → Bool
  | [] => false
  | b :: rest => !Bytes.isDigit b && (b :: rest).all Bytes.isWord

/-- Accepts the names a label may have. -/
def check (name : Bytes) : Except Fault Unit :=
  if isIdentifier name then .ok () else .error (.labelInvalid name)

/-- A byte that no label contains, and whose presence before the first colon makes the
    colon part of the statement. -/
def isBreak (b : UInt8) : Bool :=
  b == ' '.toUInt8 || b == '\t'.toUInt8 || b == '\x60'.toUInt8

/-- A line cut into its label, if it has one, and the statement behind it. -/
def split (line : Bytes) : Option Bytes × Bytes :=
  match line.splitAt? ':'.toUInt8 with
  | none => (none, line)
  | some (name, rest) =>
    if name.head? == some '.'.toUInt8 || name.any isBreak then (none, line)
    else (some name, rest.trim)

end Label

end TwoPass
