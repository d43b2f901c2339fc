import TwoPass.Enumeration
import TwoPass.Text.Bytes

/-!
# Sections

A program has a data section and, behind it, a code section.  A line that consists of
`.data` or `.code`, with or without a colon, marks where a section starts.
-/

namespace TwoPass

/-- The address space that a label belongs to, by number. -/
structure Section where
  number : Int
  deriving DecidableEq, Repr, Inhabited

namespace Section

/-- Addresses fixed by the configuration. -/
def absolute : Section := ⟨0⟩

/-- Addresses of data bytes. -/
def data : Section := ⟨1⟩

/-- Addresses of instructions. -/
def code : Section := ⟨2⟩

/-- How sections are written. -/
def enumeration : Enumeration := ⟨"Section", ["absolute", "data", "code"]⟩

/-- The name of a section. -/
def name (s : Section) : String := enumeration.name s.number

/-- The section that a marker line starts. -/
def ofMarker? (line : Bytes) : Option Section :=
  let body := line.dropEnding [':'.toUInt8]
  if body = Bytes.ofString ".data" then some data
  else if body = Bytes.ofString ".code" then some code
  else none

end Section

end TwoPass
