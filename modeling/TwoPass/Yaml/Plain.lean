import TwoPass.Text.Numeral
import TwoPass.Text.Written
import TwoPass.Yaml.Timestamp

/-!
# Plain words in YAML — what they read as

A word without quotes can stand for null, a truth value, a number or a point in time.  Its
first character tells which of them are tried.  Words that older readers take for truth
values or for numbers in base 60 count as well, so that no reader takes a text for them.
-/

namespace TwoPass

namespace Yaml

-- ── Words ───────────────────────────────────────────────────────────────────────

/-- The words that stand for null, a truth value, or a number without digits. -/
def valueWords : List String :=
  [ "", "~", "null", "Null", "NULL", "true", "True", "TRUE", "false", "False", "FALSE",
    ".nan", ".NaN", ".NAN", ".inf", ".Inf", ".INF", "+.inf", "+.Inf", "+.INF",
    "-.inf", "-.Inf", "-.INF" ]

/-- The words that once stood for a truth value. -/
def formerWords : List String :=
  [ "y", "Y", "yes", "Yes", "YES", "on", "On", "ON",
    "n", "N", "no", "No", "NO", "off", "Off", "OFF" ]

/-- Whether a text is one of some words. -/
def isOneOf (words : List String) (s : Bytes) : Bool := words.any fun w => Bytes.ofString w = s

-- ── Whole numbers ───────────────────────────────────────────────────────────────

/-- The value of digits of a base, if there are no other characters. -/
def digits? (base : Nat) (s : Bytes) : Option Nat :=
  s.foldlM (fun n b =>
    match Numeral.digitValue? b with
    | some d => if d < base then some (n * base + d) else none
    | none => none) 0

/-- The value of an unsigned whole number: decimal, or in base 16, 8 or 2 behind its mark,
    where a zero in front also marks base 8. -/
def magnitude? (s : Bytes) : Option Nat :=
  let isMark (b : UInt8) (lower upper : Char) : Bool := b == lower.toUInt8 || b == upper.toUInt8
  match s with
  | [] => none
  | zero :: rest =>
    if zero != '0'.toUInt8 then digits? 10 s
    else match rest with
      | mark :: d :: ds =>
        if isMark mark 'b' 'B' then digits? 2 (d :: ds)
        else if isMark mark 'o' 'O' then digits? 8 (d :: ds)
        else if isMark mark 'x' 'X' then digits? 16 (d :: ds)
        else digits? 8 rest
      | _ => digits? 8 rest

/-- The largest whole number without a sign. -/
def unsignedLimit : Nat := 0xFFFFFFFFFFFFFFFF

/-- The size of the whole number furthest below zero. -/
def signedLimit : Nat := 0x8000000000000000

/-- Whether the size of a number fits behind its sign. -/
def fitsSigned (negative : Bool) (n : Nat) : Bool :=
  if negative then n ≤ signedLimit else n < signedLimit

/-- Whether a text is a whole number in 64 bits. -/
def isInteger (s : Bytes) : Bool :=
  let (negative, body) := Written.splitSign s
  (magnitude? body).any fun n =>
    if body.length = s.length then n ≤ unsignedLimit else fitsSigned negative n

/-- Whether a text is a base mark with a signed number behind it. -/
def isSignedBehindMark (s : Bytes) : Bool :=
  let fits (base : Nat) (rest : Bytes) : Bool :=
    let (negative, body) := Written.splitSign rest
    !body.isEmpty && (digits? base body).any (fitsSigned negative)
  match s with
  | zero :: mark :: rest =>
    zero == '0'.toUInt8
      && ((mark == 'b'.toUInt8 && fits 2 rest) || (mark == 'o'.toUInt8 && fits 8 rest))
  | _ => false

-- ── Real numbers ────────────────────────────────────────────────────────────────

/-- Whether a decimal number is not too large. -/
def isInRange (d : Decimal) : Bool := (d.nearest .double).isSome

/-- Whether a text is a list of numbers below sixty behind colons, and then perhaps a
    fraction.  The fuel is the length of the text. -/
def isSexagesimalTail : Nat → (seen : Bool) → Bytes → Bool
  | _, seen, [] => seen
  | 0, _, _ => false
  | fuel + 1, seen, b :: rest =>
    let isUnit (c : UInt8) : Bool := Bytes.isDigit c
    let isTens (c : UInt8) : Bool := '0'.toUInt8 ≤ c && c ≤ '5'.toUInt8
    if b == ':'.toUInt8 then
      match rest with
      | c :: d :: after =>
        (isTens c && isUnit d && isSexagesimalTail fuel true after)
          || (isUnit c && isSexagesimalTail fuel true (d :: after))
      | [c] => isUnit c
      | [] => false
    else seen && b == '.'.toUInt8 && rest.all fun c => Bytes.isDigit c || c == '_'.toUInt8

/-- Whether a text is a number in base 60. -/
def isSexagesimal (s : Bytes) : Bool :=
  let (_, body) := Written.splitSign s
  let isPart (b : UInt8) : Bool := Bytes.isDigit b || b == '_'.toUInt8
  body.head?.any Bytes.isDigit
    && isSexagesimalTail body.length false (body.dropWhile isPart)

-- ── Reading ─────────────────────────────────────────────────────────────────────

/-- Whether a text that starts with a digit or a sign reads as a number or a point in
    time.  Underscores in numbers do not count. -/
def isNumberOrTime (s : Bytes) : Bool :=
  let plain := Written.withoutUnderscores s
  isTimestamp s || isInteger plain || (Decimal.read? (Written.splitSign plain).2).any isInRange
    || isSignedBehindMark plain || isSexagesimal s

/-- Whether a plain word reads as something else than text. -/
def readsAsValue (s : Bytes) : Bool :=
  isOneOf valueWords s || isOneOf formerWords s
    || match s with
      | [] => true
      | b :: _ =>
        if b == '.'.toUInt8 then (Decimal.readSeparated? s).any isInRange
        else (Bytes.isDigit b || b == '+'.toUInt8 || b == '-'.toUInt8) && isNumberOrTime s

end Yaml

end TwoPass
