import TwoPass.Config
import TwoPass.Source.Directive
import TwoPass.Source.Line
import TwoPass.Source.Statement

/-!
# Layout — the first pass

The first pass gives every label its address.  It knows the size of a data directive from
its words, and that of an instruction from its mnemonic alone: four bytes for `movi`, two
for anything else, whether or not the line is an instruction at all.

A label stands for the address at which the section of its line has arrived, before the
line itself takes effect.  A name defined again stands for the later address.
-/

namespace TwoPass

/-- How far the first pass has come: the labels seen so far, whether it is in the code
    section, and the next address of each section. -/
structure Layout where
  labels : LabelTable
  inCode : Bool
  dataNext : Int
  codeNext : Int
  deriving DecidableEq, Repr

namespace Layout

/-- The state before the first line. -/
def start (c : Config) : Layout :=
  ⟨c.labels, false, c.dataBase.toNat, c.codeBase.toNat⟩

/-- The symbol that a label on the next line stands for. -/
def here (l : Layout) : Symbol :=
  if l.inCode then ⟨l.codeNext, .code⟩ else ⟨l.dataNext, .data⟩

/-- The mnemonic of a line of code: its first word without commas at its end. -/
def mnemonic (text : Bytes) : Bytes :=
  (text.words.head?.getD []).dropEndWhile (· == ','.toUInt8)

/-- The size that a line of code is given. -/
def codeSize (text : Bytes) : Nat :=
  if (mnemonic text).foldAscii? = some (Bytes.ofString "movi") then 4 else 2

/-- Defines the label of a line, if it has one. -/
def define (l : Layout) : Option Bytes → Layout
  | none => l
  | some name => { l with labels := l.labels.insert name l.here }

/-- Moves past the body of a line. -/
def advance (l : Layout) : Body → Except Fault Layout
  | .nothing => .ok l
  | .marker s => return { l with inCode := ← Section.enter l.inCode s }
  | .text text =>
    if l.inCode then .ok { l with codeNext := l.codeNext + codeSize text }
    else return { l with dataNext := l.dataNext + (← Directive.size text) }

/-- One line of the first pass. -/
def step (l : Layout) (text : Bytes) : Except Fault Layout := do
  let statement ← Statement.read text
  (l.define statement.label).advance statement.body

/-- The state behind a list of lines; a fault is located at its line. -/
def run (l : Layout) (lines : List SourceLine) : Except Fault Layout :=
  lines.foldlM (fun l line => (l.step line.text).mapError (.atLine line.number line.text)) l

/-- The label table of a source. -/
def resolve (c : Config) (lines : List SourceLine) : Except Fault LabelTable :=
  (run (start c) lines).map Layout.labels

end Layout

end TwoPass
