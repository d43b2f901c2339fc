import TwoPass.Text.Base64
import TwoPass.Text.Utf8
import TwoPass.Yaml.Plain

/-!
# Scalars in YAML — texts in one of four styles

A text of one line is written plain where that reads back as the same text, in single quotes
where only its characters forbid that, and in double quotes where it would read as another
kind of value or has characters that need an escape.  A text with a newline is written as a
block of lines, where that is possible.  A text that is not valid UTF-8 is written in base
64.
-/

namespace TwoPass

namespace Yaml

-- ── Characters ──────────────────────────────────────────────────────────────────

/-- The code of a space. -/
def space : Nat := ' '.toNat

/-- A code point that ends a line. -/
def isBreak (code : Nat) : Bool :=
  code == 0x0A || code == 0x0D || code == 0x85 || code == 0x2028 || code == 0x2029

/-- A space or a tab. -/
def isBlank (code : Nat) : Bool := code == space || code == 0x09

/-- A code point that can be written as it is. -/
def isPrintable (code : Nat) : Bool :=
  code == 0x0A || (0x20 ≤ code && code ≤ 0x7E)
    || (0xA0 ≤ code && code < 0xFFFE && code != 0xFEFF && Glyph.isScalarValue code)

/-- A code point that is neither a tab nor can be written as it is. -/
def isSpecial (code : Nat) : Bool := code != 0x09 && !isPrintable code

/-- A character that starts something else than plain text. -/
def isIndicator (code : Nat) : Bool :=
  ("#,[]\x7b\x7d&*!|>'\"%@\x60".toList.map Char.toNat).contains code

-- ── What the characters of a text allow ─────────────────────────────────────────

/-- Whether a blank or nothing comes first. -/
def startsBlank (codes : List Nat) : Bool := codes.head?.all isBlank

/-- Whether the first character of a text is taken for something else than plain text. -/
def startsSpecial (codes : List Nat) : Bool :=
  match codes with
  | [] => false
  | c :: rest =>
    isIndicator c
      || ((c == '?'.toNat || c == ':'.toNat || c == '-'.toNat) && startsBlank rest)
      || ("---".toList.map Char.toNat).isPrefixOf codes
      || ("...".toList.map Char.toNat).isPrefixOf codes

/-- Whether a colon before a blank, or a number sign behind one, stands in a text behind its
    first character. -/
def breaksOff : List Nat → Bool
  | a :: b :: rest =>
    (b == ':'.toNat && startsBlank rest)
      || (b == '#'.toNat && (isBlank a || isBreak a || a == 0)) || breaksOff (b :: rest)
  | _ => false

/-- Whether a character of one kind stands directly before one of another kind. -/
def hasPair (first second : Nat → Bool) : List Nat → Bool
  | a :: b :: rest => (first a && second b) || hasPair first second (b :: rest)
  | _ => false

/-- A space. -/
def isSpace (code : Nat) : Bool := code == space

/-- Whether a text can stand in single quotes. -/
def allowsSingle (codes : List Nat) : Bool :=
  !codes.any (fun c => c == 0x09 || isSpecial c)
    && !hasPair isBreak isSpace codes && !hasPair isSpace isBreak codes

/-- Whether a text can stand without quotes, as far as its characters go. -/
def allowsPlain (codes : List Nat) : Bool :=
  allowsSingle codes && !codes.any isBreak && !startsSpecial codes && !breaksOff codes
    && codes.head? != some space && codes.getLast? != some space

/-- Whether a text can stand as a block of lines. -/
def allowsBlock (codes : List Nat) : Bool :=
  !codes.any isSpecial && !hasPair isSpace isBreak codes && codes.getLast? != some space

-- ── Styles ──────────────────────────────────────────────────────────────────────

/-- The escape of a code point behind its backslash. -/
def escape (code : Nat) : Bytes :=
  let short : List (Nat × Char) :=
    [ (0x00, '0'), (0x07, 'a'), (0x08, 'b'), (0x09, 't'), (0x0A, 'n'), (0x0B, 'v'),
      (0x0C, 'f'), (0x0D, 'r'), (0x1B, 'e'), (0x22, '"'), (0x5C, '\\'), (0x85, 'N'),
      (0xA0, '_'), (0x2028, 'L'), (0x2029, 'P') ]
  let upper (s : Bytes) : Bytes := s.map fun b => if 'a'.toUInt8 ≤ b then b - 32 else b
  match short.lookup code with
  | some c => [c.toUInt8]
  | none =>
    if code < 0x100 then 'x'.toUInt8 :: upper (Bytes.hexPadded 2 code)
    else if code < 0x10000 then 'u'.toUInt8 :: upper (Bytes.hexPadded 4 code)
    else 'U'.toUInt8 :: upper (Bytes.hexPadded 8 code)

/-- A code point in double quotes. -/
def escaped (always : Bool) (code : Nat) : Bytes :=
  if always || !isPrintable code || isBreak code || code == '"'.toNat || code == '\\'.toNat then
    '\\'.toUInt8 :: escape code
  else Bytes.ofCode code

/-- A text in double quotes.  Behind a byte order mark all characters are escaped. -/
def doubleQuoted (codes : List Nat) : Bytes :=
  let always := codes.head? == some 0xFEFF
  ['"'.toUInt8] ++ codes.flatMap (escaped always) ++ ['"'.toUInt8]

/-- The spaces in front of a line. -/
def margin (indent : Nat) : Bytes := List.replicate indent ' '.toUInt8

/-- A text inside single quotes, which are doubled.  Line ends are written as they are, and
    the next line is indented. -/
def singleBody (indent : Nat) : (fresh : Bool) → List Nat → Bytes
  | _, [] => []
  | fresh, c :: rest =>
    if isBreak c then Bytes.ofCode c ++ singleBody indent true rest
    else (if fresh then margin indent else [])
      ++ (if c == '\''.toNat then Bytes.ofString "''" else Bytes.ofCode c)
      ++ singleBody indent false rest

/-- A text in single quotes. -/
def singleQuoted (indent : Nat) (codes : List Nat) : Bytes :=
  ['\''.toUInt8] ++ singleBody indent false codes ++ ['\''.toUInt8]

/-- Where the next character of a block is written. -/
inductive Place where
  | header
  | lineStart
  | line
  deriving DecidableEq, Repr

/-- The lines of a block. -/
def blockBody (indent : Nat) : Place → List Nat → Bytes
  | .lineStart, [] => []
  | _, [] => ['\n'.toUInt8]
  | place, c :: rest =>
    if isBreak c then Bytes.ofCode c ++ blockBody indent .lineStart rest
    else
      (match place with
        | .header => '\n'.toUInt8 :: margin indent
        | .lineStart => margin indent
        | .line => [])
      ++ Bytes.ofCode c ++ blockBody indent .line rest

/-- The marks of a block: how far it is indented, if its first line does not tell, and what
    becomes of the line ends behind it. -/
def blockMarks (codes : List Nat) : Bytes :=
  let hint := if codes.head?.any fun c => isSpace c || isBreak c then Bytes.ofString "4" else []
  let ending := match codes.reverse with
    | last :: before =>
      if !isBreak last then Bytes.ofString "-"
      else if before.head?.all isBreak then Bytes.ofString "+"
      else []
    | [] => Bytes.ofString "-"
  hint ++ ending

/-- A text as a block of lines. -/
def block (indent : Nat) (codes : List Nat) : Bytes :=
  ['|'.toUInt8] ++ blockMarks codes ++ blockBody indent .header codes

/-- A text on a line of its own. -/
def onLine (s : Bytes) : Bytes := s ++ ['\n'.toUInt8]

/-- Text cut into lines of a length. -/
def cut (width : Nat) : Nat → Bytes → List Bytes
  | 0, _ => []
  | _, [] => []
  | fuel + 1, s => s.take width :: cut width fuel (s.drop width)

/-- Bytes in base 64, in lines if they are many. -/
def binary (indent : Nat) (s : Bytes) : Bytes :=
  let width := 70
  let code := Base64.encode s
  Bytes.ofString "!!binary "
    ++ if code.length < width then onLine code
      else block indent ((cut width code.length code).flatMap fun l => (onLine l).map UInt8.toNat)

/-- A text as the value of an entry, up to the end of its last line.  Further lines are
    indented. -/
def scalar (indent : Nat) (s : Bytes) : Bytes :=
  if !s.isUtf8 then binary indent s
  else
    let codes := s.glyphs.filterMap Glyph.code?
    if codes.contains '\n'.toNat then
      if allowsBlock codes then block indent codes else onLine (doubleQuoted codes)
    else if readsAsValue s then onLine (doubleQuoted codes)
    else if allowsPlain codes then onLine s
    else if allowsSingle codes then onLine (singleQuoted indent codes)
    else onLine (doubleQuoted codes)

end Yaml

end TwoPass
