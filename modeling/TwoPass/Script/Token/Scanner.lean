import TwoPass.Script.Token.Quotation
import TwoPass.Text.Letter

/-!
# Scanning scripts — from text to tokens

A text is read as code points: a byte outside any valid encoding counts as the replacement
character, a carriage return as a newline, and a zero ends the script.
-/

namespace TwoPass

namespace Script

namespace Scanner

/-- The characters of a script. -/
def characters (source : Bytes) : List Char :=
  source.glyphs.map fun g => Char.ofNat (g.code?.getD 0xFFFD)

/-- Every line end as a newline. -/
def joinLineEnds : List Char → List Char
  | '\r' :: '\n' :: rest => '\n' :: joinLineEnds rest
  | '\r' :: rest => '\n' :: joinLineEnds rest
  | c :: rest => c :: joinLineEnds rest
  | [] => []

/-- A character that a name can start with. -/
def startsName (c : Char) : Bool :=
  c == '_' || isLetterCode c.toNat

/-- A character of a name. -/
def inName (c : Char) : Bool := startsName c || c.isDigit

-- ── Tokens ───────────────────────────────────────────────────────────────────

/-- Whether a character opens or closes a string literal. -/
def isQuote (c : Char) : Bool := c == '"' || c == '\''

/-- The longest symbol that a text starts with. -/
def scanSymbol (cs : List Char) : Option (String × List Char) :=
  (symbols.find? fun s => s.toList.isPrefixOf cs).map fun s => (s, cs.drop s.length)

/-- A name or a word with a meaning of its own. -/
def scanName (cs : List Char) : Option (Token × List Char) :=
  let word := cs.takeWhile inName
  let rest := cs.dropWhile inName
  let spelled := String.ofList word
  if reserved.contains spelled then none
  else if keywords.contains spelled then some (.keyword spelled, rest)
  else some (.name (encode word), rest)

/-- One token other than those for lines and blocks. -/
def scanToken (cs : List Char) : Option (Token × List Char) :=
  match cs with
  | 'r' :: 'b' :: q :: _ => if isQuote q then scanString true true (cs.drop 2) else scanName cs
  | 'r' :: q :: _ => if isQuote q then scanString true false (cs.drop 1) else scanName cs
  | 'b' :: q :: _ => if isQuote q then scanString false true (cs.drop 1) else scanName cs
  | '.' :: c :: _ =>
    if c.isDigit then scanReal [] cs else some (.symbol ".", cs.drop 1)
  | c :: _ =>
    if isQuote c then scanString false false cs
    else if c.isDigit then scanNumber cs
    else if startsName c then scanName cs
    else (scanSymbol cs).map fun (s, rest) => (.symbol s, rest)
  | [] => none

/-- Where the scanner is: how many brackets are open, the columns of the open blocks, and
    whether it is at the start of a line. -/
structure Position where
  depth : Nat
  columns : List Nat
  atStart : Bool

/-- The column behind the blanks at the start of a line, and how many there are.  A tab
    moves on by what is left of a group of eight characters. -/
def indentation : Nat → Nat → List Char → Nat × List Char
  | column, count, ' ' :: rest => indentation (column + 1) (count + 1) rest
  | column, count, '\t' :: rest => indentation (column + (8 - count % 8)) (count + 1) rest
  | column, _, rest => (column, rest)

/-- The block tokens of a line that starts at a column. -/
def blocks (column : Nat) (columns : List Nat) : Option (List Token × List Nat) :=
  let current := columns.headD 0
  if current < column then some ([.indent], column :: columns)
  else
    let closed := columns.takeWhile (column < ·)
    let left := columns.dropWhile (column < ·)
    if left.headD 0 == column then some (closed.map fun _ => .outdent, left) else none

/-- The tokens that end a script: open blocks are closed, behind the end of their line. -/
def closing (p : Position) : List Token :=
  if p.columns = [] then []
  else (if p.atStart then [] else [.newline]) ++ p.columns.map fun _ => .outdent

/-- How a symbol changes the number of open brackets. -/
def depthBehind (depth : Nat) : Token → Option Nat
  | .symbol s =>
    if s == "(" || s == "[" || s == "\x7b" then some (depth + 1)
    else if s == ")" || s == "]" || s == "\x7d" then if depth == 0 then none else some (depth - 1)
    else some depth
  | _ => some depth

/-- The tokens of a script behind those already found, the latest in front.  Each step takes
    at least one character, so the number of characters is fuel enough. -/
def scanFrom : Nat → Position → List Token → List Char → Option (List Token)
  | 0, _, _, _ => none
  | fuel + 1, p, found, cs =>
    if p.atStart then
      let (column, rest) := indentation 0 0 cs
      let isBlank := match rest with
        | [] => true
        | c :: _ => c == '#' || c == '\n' || c == '\x00'
      if isBlank || p.depth != 0 then
        scanLine fuel p isBlank found rest
      else do
        let (tokens, columns) ← blocks column p.columns
        scanLine fuel { p with columns } false (tokens.reverse ++ found) rest
    else scanLine fuel p false found cs
where
  /-- The rest of a line behind its indentation. -/
  scanLine : Nat → Position → Bool → List Token → List Char → Option (List Token)
  | 0, _, _, _, _ => none
  | fuel + 1, p, isBlank, found, cs =>
    let cs := cs.dropWhile fun c => c == ' ' || c == '\t'
    let cs := if cs.head? == some '#' then cs.dropWhile (fun c => c != '\n' && c != '\x00') else cs
    match cs with
    | [] => some ((closing p).reverse ++ found).reverse
    | '\x00' :: _ => some ((closing p).reverse ++ found).reverse
    | '\n' :: rest =>
      let found := if isBlank || p.depth != 0 then found else .newline :: found
      scanFrom fuel { p with atStart := true } found rest
    | '\\' :: rest =>
      match rest with
      | '\n' :: rest => scanFrom fuel { p with atStart := false } found rest
      | _ => none
    | cs => do
      let (token, rest) ← scanToken cs
      let depth ← depthBehind p.depth token
      scanFrom fuel { p with depth, atStart := false } (token :: found) rest

/-- Every `not` with an `in` behind it as one operator. -/
def joinNotIn : List Token → List Token
  | .keyword "not" :: .keyword "in" :: rest => .symbol "not in" :: joinNotIn rest
  | t :: rest => t :: joinNotIn rest
  | [] => []

/-- The tokens of a script; `none` if it has a text that is no token, or blocks that do not
    line up. -/
def scan (source : Bytes) : Option (List Token) :=
  let cs := joinLineEnds (characters source)
  (scanFrom (2 * cs.length + 2) ⟨0, [], true⟩ [] cs).map joinNotIn

end Scanner

end Script

end TwoPass
