import TwoPass.Text.Bytes

/-!
# The message catalogue

Messages are formats with places for arguments.  The English format is also the key under
which the German one is found; a key without an entry is its own format.
-/

namespace TwoPass

/-- The languages that messages are given in. -/
inductive Language where
  | english
  | german
  deriving DecidableEq, Repr

namespace Catalogue

/-- The German formats under their English keys. -/
def german : List (String × String) :=
  [ ("immediate out of range", "Direktwert außerhalb des Bereichs"),
    ("immediate too large", "Direktwert zu groß"),
    ("operand shape invalid", "Operandenform ungültig"),
    ("excessive operands", "zu viele Operanden"),
    ("opcode missing", "Opcode fehlt"),
    ("register code invalid", "Registercode ungültig"),
    ("register operand invalid", "Registeroperand ungültig"),
    ("opcode '%v' unknown", "Opcode '%v' unbekannt"),
    ("register '%v' unknown", "Register '%v' unbekannt"),
    ("'%v' is not a number", "'%v' ist keine Zahl"),
    ("register %v %v", "Register %v %v"),
    ("has no operand encoding", "hat keine Operandenkodierung"),
    ("must be none", "muss none sein"),
    ("must not be none", "darf nicht none sein"),
    ("registers %v and %v are of mixed width", "Register %v und %v haben unterschiedliche Breiten"),
    ("%v: %v", "%v: %v"),
    ("directive syntax", "Direktivensyntax fehlerhaft"),
    (".data after .code", ".data nach .code"),
    ("config invalid", "Konfiguration ungültig"),
    ("directive '%v' unknown", "Direktive '%v' unbekannt"),
    ("label '%v' invalid", "Marke '%v' ungültig"),
    ("label %v missing", "Marke %v fehlt"),
    ("config '%v' invalid", "Konfiguration '%v' ungültig"),
    ("line %d '%v' %v", "Zeile %d '%v' %v") ]

/-- The format of a key in a language. -/
def format : Language → String → String
  | .english, key => key
  | .german, key => (german.lookup key).getD key

/-- The format of a text that is a key, or the text itself. -/
def text : Language → Bytes → Bytes
  | .english, key => key
  | .german, key =>
    match german.find? fun e => Bytes.ofString e.1 = key with
    | some e => Bytes.ofString e.2
    | none => key

end Catalogue

end TwoPass
