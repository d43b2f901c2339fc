import TwoPass.Layout
import TwoPass.Program

/-!
# The assembler — both passes, and what is kept between runs

The first pass resolves every label before the second emits anything, so a label may be
referred to before it is defined.  The first fault of the first pass comes before any
fault of the second, and nothing is assembled when there is one.

An assembler keeps its settings and the label table of its last run.  A run that fails in
the first pass leaves no table, one that fails in the second leaves its own.
-/

namespace TwoPass

/-- How far the second pass has come.  The latest item stands in front. -/
structure Assembly where
  inCode : Bool
  dataNext : Int
  codeNext : Int
  items : List Item
  deriving DecidableEq, Repr

namespace Assembly

/-- The state before the first line. -/
def start (c : Config) : Assembly := ⟨false, c.dataBase.toNat, c.codeBase.toNat, []⟩

/-- Adds what a line emitted, at the next address of its section. -/
def add (s : Assembly) (line : SourceLine) (e : Emission) : Assembly :=
  match e with
  | .data _ =>
    { s with
      items := .ofEmission line.number line.text s.dataNext e :: s.items
      dataNext := s.dataNext + e.size }
  | .code _ =>
    { s with
      items := .ofEmission line.number line.text s.codeNext e :: s.items
      codeNext := s.codeNext + e.size }

/-- One line of the second pass. -/
def step (labels : LabelTable) (s : Assembly) (line : SourceLine) : Except Fault Assembly := do
  let (inCode, emission) ← Emission.ofLine labels s.inCode line.text
  let s := { s with inCode }
  match emission with
  | none => return s
  | some e => return s.add line e

/-- The state behind a list of lines; a fault is located at its line. -/
def run (labels : LabelTable) (s : Assembly) (lines : List SourceLine) : Except Fault Assembly :=
  lines.foldlM
    (fun s line => (s.step labels line).mapError (.atLine line.number line.text)) s

/-- The program of a source whose labels are known. -/
def program (c : Config) (labels : LabelTable) (lines : List SourceLine) :
    Except Fault Program := do
  return ⟨(← run labels (start c) lines).items.reverse, labels⟩

end Assembly

/-- The program that a list of lines assembles to. -/
def assemble (c : Config) (texts : List Bytes) : Except Fault Program := do
  let lines := SourceLine.ofTexts texts
  Assembly.program c (← Layout.resolve c lines) lines

/-- An assembler between runs: whether it tells what it does, the configuration if it was
    given one, and the label table of its last run. -/
structure Assembler where
  verbose : Bool
  config : Option Config
  labels : Option LabelTable
  deriving DecidableEq, Repr

/-- Why source text was not assembled. -/
inductive SourceFailure where
  | lineTooLong
  | fault (f : Fault)
  deriving DecidableEq, Repr

namespace Assembler

/-- A new assembler. -/
def new : Assembler := ⟨false, none, none⟩

/-- The configuration in effect. -/
def settings (a : Assembler) : Config := a.config.getD .default

/-- What is told of a label. -/
def labelNote (e : SymbolEntry) : Bytes :=
  Bytes.ofString "label " ++ e.name ++ Bytes.ofString " = 0x" ++ Bytes.hexPadded 4 e.symbol.address
    ++ Bytes.ofString " (" ++ Bytes.ofString e.symbol.space.name ++ Bytes.ofString ")\n"

/-- What is told of a line before it is emitted. -/
def lineNote (line : SourceLine) : Bytes :=
  Bytes.decimalNat line.number ++ Bytes.ofString ": " ++ line.text ++ ['\n'.toUInt8]

/-- The lines that the second pass looks at: all of them, or those up to the faulty one. -/
def visited (lines : List SourceLine) : Except Fault Program → List SourceLine
  | .error (.atLine number _ _) => lines.filter fun l => l.number ≤ number
  | _ => lines

/-- What a run tells if it is asked to, once its labels are known. -/
def notes (labels : LabelTable) (lines : List SourceLine) (result : Except Fault Program) : Bytes :=
  labels.symbols.flatMap labelNote ++ (visited lines result).flatMap lineNote

/-- What a run gives: the program or a fault, the assembler behind it, and what it told. -/
structure Outcome (α : Type) where
  result : α
  assembler : Assembler
  log : Bytes

/-- Assembles a list of lines. -/
def run (a : Assembler) (texts : List Bytes) : Outcome (Except Fault Program) :=
  let lines := SourceLine.ofTexts texts
  match Layout.resolve a.settings lines with
  | .error f => ⟨.error f, { a with labels := none }, []⟩
  | .ok labels =>
    let result := Assembly.program a.settings labels lines
    ⟨result, { a with labels := some labels }, if a.verbose then notes labels lines result else []⟩

/-- Assembles source text.  A line that is too long stops everything beforehand. -/
def runSource (a : Assembler) (source : Bytes) : Outcome (Except SourceFailure Program) :=
  match source.lines? with
  | none => ⟨.error .lineTooLong, a, []⟩
  | some texts =>
    let outcome := a.run texts
    ⟨outcome.result.mapError .fault, outcome.assembler, outcome.log⟩

end Assembler

/-- The wording of a failure on source text other than a fault. -/
def SourceFailure.tooLongMessage : String := "bufio.Scanner: token too long"

end TwoPass
