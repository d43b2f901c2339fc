import TwoPass.Emission
import TwoPass.Traversal

/-!
# Programs — items, image and listing

A program is a list of items in source order.  It is always shown with its data first and
its code behind, whatever the order of the items.  The image is the data marker, the data
bytes, and, from the first instruction on, the code marker and the instruction words.
-/

namespace TwoPass

/-- A source line with what it emitted at which address.  An assembled item has either
    data or an instruction; an item made by hand may have both or neither. -/
structure Item where
  number : Int
  line : Bytes
  address : Int
  data : Option Bytes
  instruction : Option Instruction
  deriving DecidableEq, Repr

namespace Item

/-- The bytes of an item: its data if it has any, else its instruction word. -/
def bytes (i : Item) : Except Fault Bytes :=
  match i.data, i.instruction with
  | some data, _ => .ok data
  | none, some instruction => instruction.encode.map Word.bytes
  | none, none => .ok []

/-- The item of an emission. -/
def ofEmission (number : Int) (line : Bytes) (address : Int) : Emission → Item
  | .data bytes => ⟨number, line, address, some bytes, none⟩
  | .code instruction => ⟨number, line, address, none, some instruction⟩

end Item

/-- An assembled program with its labels. -/
structure Program where
  items : List Item
  labels : LabelTable
  deriving DecidableEq, Repr

/-- Why a program could not be written: an item has no bytes, or the sink takes no more. -/
inductive WriteFailure where
  | fault (f : Fault)
  | sinkFull
  deriving DecidableEq, Repr

namespace Program

/-- The items with data. -/
def dataItems (p : Program) : Traversal Item := .filter (·.data.isSome) (.items p.items)

/-- The items with an instruction. -/
def codeItems (p : Program) : Traversal Item := .filter (·.instruction.isSome) (.items p.items)

/-- The data items and then the code items. -/
def all (p : Program) : Traversal Item := .concat [p.dataItems, p.codeItems]

/-- What the data bytes of an image follow. -/
def dataMarker : Bytes := Bytes.ofString ".data:"

/-- What the instruction words of an image follow. -/
def codeMarker : Bytes := Bytes.ofString ".code:"

/-- The bytes of an item, with a fault located at the item's line. -/
def locatedBytes (i : Item) : Except Fault Bytes :=
  i.bytes.mapError (.atLine i.number i.line)

/-- The bytes of a list of items, with the code marker in front of the first one that has
    an instruction. -/
def imageOf (items : List Item) : Except Fault Bytes := do
  let plain := items.takeWhile (·.instruction.isNone)
  let marked := items.dropWhile (·.instruction.isNone)
  let before ← plain.mapM locatedBytes
  let behind ← marked.mapM locatedBytes
  return before.flatten ++ (if marked = [] then [] else codeMarker) ++ behind.flatten

/-- The image of a program. -/
def image (p : Program) : Except Fault Bytes := do
  return dataMarker ++ (← imageOf p.all.toList)

/-- The text with blanks behind it up to a width. -/
def padded (width : Nat) (text : Bytes) : Bytes :=
  text ++ List.replicate (width - text.length) ' '.toUInt8

/-- The line of a listing: address, bytes and source text. -/
def listingLine (i : Item) (bytes : Bytes) : Bytes :=
  let gap := Bytes.ofString "  "
  Bytes.hexPadded 4 i.address ++ gap ++ padded 8 bytes.toHex ++ gap ++ i.line ++ ['\n'.toUInt8]

/-- The lines of a listing up to the first item without bytes, and that item's fault. -/
def listingOf : List Item → List Bytes × Option Fault
  | [] => ([], none)
  | i :: rest =>
    match i.bytes with
    | .error f => ([], some f)
    | .ok bytes =>
      let (lines, fault) := listingOf rest
      (listingLine i bytes :: lines, fault)

/-- Writes texts, one call each, to a sink that takes a bounded number of calls: what was
    written, and whether the sink took everything. -/
def writeTo (limit : Option Nat) (texts : List Bytes) : List Bytes × Bool :=
  match limit with
  | none => (texts, true)
  | some n => (texts.take n, texts.length ≤ n)

/-- Writes the image with one call. -/
def writeImage (limit : Option Nat) (p : Program) : Bytes × Option WriteFailure :=
  match p.image with
  | .error f => ([], some (.fault f))
  | .ok bytes =>
    match writeTo limit [bytes] with
    | (written, true) => (written.flatten, none)
    | (written, false) => (written.flatten, some .sinkFull)

/-- Writes the listing with one call for each item. -/
def writeListing (limit : Option Nat) (p : Program) : Bytes × Option WriteFailure :=
  let (lines, fault) := listingOf p.all.toList
  match writeTo limit lines with
  | (written, true) => (written.flatten, fault.map .fault)
  | (written, false) => (written.flatten, some .sinkFull)

end Program

end TwoPass
