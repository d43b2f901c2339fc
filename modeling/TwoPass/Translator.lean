import TwoPass.Emission

/-!
# Translators — the second pass, one line at a time

A translator turns lines into what they emit, under a complete label table.  It starts in the
data section and remembers only whether the code section has started.  It can be fed any lines, also
behind one that it has refused.
-/

namespace TwoPass

/-- A label table, and whether lines are in the code section. -/
structure Translator where
  labels : LabelTable
  inCode : Bool
  deriving DecidableEq, Repr

/-- What a line emits, if anything, and the translator behind the line. -/
structure Translation where
  result : Except Fault (Option Emission)
  translator : Translator

namespace Translator

/-- A translator in the data section. -/
def new (labels : LabelTable) : Translator := ⟨labels, false⟩

/-- Translates what stands on a line behind its label. -/
def translateBody (t : Translator) : Body → Translation
  | .nothing => ⟨.ok none, t⟩
  | .marker s =>
    match Section.enter t.inCode s with
    | .error f => ⟨.error f, t⟩
    | .ok inCode => ⟨.ok none, { t with inCode }⟩
  | .text text => ⟨(Emission.ofText t.labels t.inCode text).map some, t⟩

/-- Translates a line. -/
def translate (t : Translator) (line : Bytes) : Translation :=
  match Statement.read line with
  | .error f => ⟨.error f, t⟩
  | .ok st => t.translateBody st.body

/-- The translations of lines, one by one. -/
def translateAll : Translator → List Bytes → List Translation
  | _, [] => []
  | t, line :: rest =>
    let translation := t.translate line
    translation :: translateAll translation.translator rest

/-- The translator behind lines. -/
def after (t : Translator) (lines : List Bytes) : Translator :=
  lines.foldl (fun t line => (t.translate line).translator) t

end Translator

end TwoPass
