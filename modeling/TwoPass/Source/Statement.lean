import TwoPass.Source.Label
import TwoPass.Source.Section

/-!
# Statements

A line is an optional label with a statement behind it: nothing, the start of a section,
or the text of a data directive or an instruction.  Which of the two a text is depends on
the section it stands in.
-/

namespace TwoPass

/-- What stands on a line behind its label. -/
inductive Body where
  | nothing
  | marker (s : Section)
  | text (text : Bytes)
  deriving DecidableEq, Repr

/-- A line with its label read. -/
structure Statement where
  label : Option Bytes
  body : Body
  deriving DecidableEq, Repr

namespace Body

/-- The body that a text behind a label, or a whole line without one, stands for. -/
def ofText (rest : Bytes) : Body :=
  if rest = [] then nothing
  else match Section.ofMarker? rest with
    | some s => marker s
    | none => text rest

end Body

namespace Statement

/-- Reads a line, whose label must be an identifier. -/
def read (line : Bytes) : Except Fault Statement :=
  match Label.split line with
  | (none, rest) => .ok ⟨none, Body.ofText rest⟩
  | (some name, rest) => do
    Label.check name
    return ⟨some name, Body.ofText rest⟩

end Statement

/-- Whether lines are in the code section behind a marker.  The code section can be
    entered again, the data section cannot. -/
def Section.enter (inCode : Bool) (s : Section) : Except Fault Bool :=
  if s = .code then .ok true
  else if inCode then .error .sectionOrder
  else .ok false

end TwoPass
