import TwoPass.Machine.Reader

/-!
# Data directives

`.byte`, `.word` and `.long` take one number, `.array` any number of bytes, and `.asciiz`
the text between the first and the last backtick of its line, to which it adds a zero.
Numbers are written most significant byte first.

The size of a directive is known before its values are: it depends on the directive and
on how many words, or how much text, follow it.
-/

namespace TwoPass

namespace Directive

/-- The kinds of data directive. -/
inductive Kind where
  | byte
  | word
  | long
  | array
  | asciiz
  deriving DecidableEq, Repr

namespace Kind

/-- The kinds in a fixed order. -/
def all : List Kind := [byte, word, long, array, asciiz]

/-- The keyword of a directive. -/
def keyword : Kind → Bytes
  | byte => Bytes.ofString ".byte"
  | word => Bytes.ofString ".word"
  | long => Bytes.ofString ".long"
  | array => Bytes.ofString ".array"
  | asciiz => Bytes.ofString ".asciiz"

/-- The directive with a keyword. -/
def ofKeyword? (word : Bytes) : Option Kind := all.find? fun k => k.keyword = word

end Kind

/-- The byte that encloses the text of `.asciiz`. -/
def quote : UInt8 := '\x60'.toUInt8

/-- The text between the first and the last quote of a line. -/
def quoted (line : Bytes) : Except Fault Bytes :=
  match line.splitAt? quote with
  | none => .error .directiveSyntax
  | some (_, rest) =>
    match Bytes.splitAt? quote rest.reverse with
    | none => .error .directiveSyntax
    | some (_, text) => .ok text.reverse

/-- The one number behind a directive, in `size` bytes. -/
def readSingle (size : Nat) : List Bytes → Except Fault Bytes
  | [word] => (readNumber word (8 * size)).map (Bytes.bigEndian size)
  | _ => .error .directiveSyntax

/-- A line cut into its directive and the words behind it. -/
def split (line : Bytes) : Except Fault (Kind × List Bytes) :=
  match line.words with
  | [] => .error .directiveSyntax
  | keyword :: values =>
    match Kind.ofKeyword? keyword with
    | none => .error (.directiveUnknown keyword)
    | some kind => .ok (kind, values)

/-- The bytes that a directive line stands for. -/
def read (line : Bytes) : Except Fault Bytes := do
  match ← split line with
  | (.byte, values) => readSingle 1 values
  | (.word, values) => readSingle 2 values
  | (.long, values) => readSingle 4 values
  | (.array, values) => values.mapM fun word => (readNumber word 8).map Nat.toUInt8
  | (.asciiz, _) => return (← quoted line) ++ [0]

/-- The number of bytes that a directive line stands for, without a look at its values. -/
def size (line : Bytes) : Except Fault Nat := do
  match ← split line with
  | (.byte, _) => return 1
  | (.word, _) => return 2
  | (.long, _) => return 4
  | (.array, values) => return values.length
  | (.asciiz, _) => return (← quoted line).length + 1

end Directive

end TwoPass
