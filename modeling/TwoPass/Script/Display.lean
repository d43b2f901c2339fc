import TwoPass.Script.Store
import TwoPass.Text.Quoted

/-!
# How values are written

Text inside other values is quoted, with escapes for what cannot be printed.  A list or
dictionary that contains itself is written as dots where it comes again.
-/

namespace TwoPass

namespace Script

/-- The name of a function that every script knows. -/
def Builtin.name : Builtin → String
  | .abs => "abs"
  | .all => "all"
  | .any => "any"
  | .bool => "bool"
  | .bytes => "bytes"
  | .chr => "chr"
  | .dict => "dict"
  | .dir => "dir"
  | .enumerate => "enumerate"
  | .fail => "fail"
  | .float => "float"
  | .getattr => "getattr"
  | .hasattr => "hasattr"
  | .hash => "hash"
  | .int => "int"
  | .len => "len"
  | .list => "list"
  | .max => "max"
  | .min => "min"
  | .ord => "ord"
  | .print => "print"
  | .range => "range"
  | .repr => "repr"
  | .reversed => "reversed"
  | .sorted => "sorted"
  | .str => "str"
  | .tuple => "tuple"
  | .type => "type"
  | .zip => "zip"

/-- The name of the type of a value. -/
def Value.typeName : Value → String
  | .nothing => "NoneType"
  | .bool _ => "bool"
  | .integer _ => "int"
  | .real _ => "float"
  | .text _ => "string"
  | .data _ => "bytes"
  | .range _ _ _ => "range"
  | .tuple _ => "tuple"
  | .list _ => "list"
  | .dict _ => "dict"
  | .function _ => "function"
  | .builtin _ => "builtin_function_or_method"

/-- Texts with commas between them. -/
def commas (pieces : List Bytes) : Bytes := Bytes.join (Bytes.ofString ", ") pieces

/-- Text between an opening and a closing mark. -/
def enclosed (opening : String) (body : Bytes) (closing : String) : Bytes :=
  Bytes.ofString opening ++ body ++ Bytes.ofString closing

mutual

/-- A value, given how the cells inside it are written. -/
def Value.writeWith (cell : Nat → Bytes) : Value → Bytes
  | .nothing => Bytes.ofString "None"
  | .bool b => Bytes.ofString (if b then "True" else "False")
  | .integer n => Bytes.decimal n
  | .real x => Floating.text x
  | .text s => Quoted.quote s
  | .data s => 'b'.toUInt8 :: Quoted.quote s
  | .range start stop step =>
    let bounds :=
      if step != 1 then [start, stop, step] else if start != 0 then [start, stop] else [stop]
    enclosed "range(" (commas (bounds.map Bytes.decimal)) ")"
  | .tuple items =>
    match writeAllWith cell items with
    | [piece] => enclosed "(" piece ",)"
    | pieces => enclosed "(" (commas pieces) ")"
  | .list r => cell r
  | .dict r => cell r
  | .function r => cell r
  | .builtin b => enclosed "<built-in function " (Bytes.ofString b.name) ">"

/-- The values of a list, given how the cells inside them are written. -/
def writeAllWith (cell : Nat → Bytes) : List Value → List Bytes
  | [] => []
  | v :: rest => v.writeWith cell :: writeAllWith cell rest

end

namespace Store

/-- What a cell holds, inside the cells given.  As no cell comes again inside itself, the
    number of cells is fuel enough. -/
def writeCell (s : Store) : Nat → List Nat → Nat → Bytes
  | 0, _, _ => []
  | fuel + 1, around, r =>
    let inner := s.writeCell fuel (r :: around)
    match s.cells[r]? with
    | some (.list items _) =>
      if around.contains r then Bytes.ofString "[...]"
      else enclosed "[" (commas (writeAllWith inner items)) "]"
    | some (.dict content _) =>
      if around.contains r then Bytes.ofString "\x7b...\x7d"
      else
        let entry := fun (e : Value × Value) =>
          e.1.writeWith inner ++ Bytes.ofString ": " ++ e.2.writeWith inner
        enclosed "\x7b" (commas (content.toList.map entry)) "\x7d"
    | some (.closure f) => enclosed "<function " f.name ">"
    | _ => []

/-- A value as it is written inside others. -/
def write (s : Store) (v : Value) : Bytes := v.writeWith (s.writeCell (s.cells.size + 2) [])

/-- A value as it is printed: text is not quoted. -/
def display (s : Store) : Value → Bytes
  | .text t => t
  | .data t => t
  | v => s.write v

/-- A value turned into text, in which every byte outside a valid encoding becomes a
    replacement character. -/
def toText (s : Store) : Value → Bytes
  | .text t => t
  | .data t => t.glyphs.flatMap fun g => Bytes.ofCode (g.code?.getD 0xFFFD)
  | v => s.write v

end Store

end Script

end TwoPass
