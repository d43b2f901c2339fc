import TwoPass.Locale.Tag
import TwoPass.Text.Blank
import TwoPass.Text.Written

/-!
# Preferences — weighted lists of language tags

A preference is a list of tags between commas.  Behind a semicolon a tag may have a weight,
which is one otherwise; tags come in the order of their weights, and those without a positive
weight do not count.  A few names of languages stand for tags.
-/

namespace TwoPass

namespace Locale

-- ── Weights ─────────────────────────────────────────────────────────────────────

/-- How much a tag counts.  A weight that is not a number is in order with no other. -/
inductive Weight where
  | finite (value : BinaryNumber)
  | infinite
  | undefined
  deriving DecidableEq, Repr

namespace Weight

/-- The weight of a tag without one. -/
def one : Weight := finite ⟨1, 0⟩

/-- Whether a weight is above another. -/
def exceeds : Weight → Weight → Bool
  | finite a, finite b => b.toRatio.lt a.toRatio
  | infinite, finite _ => true
  | _, _ => false

/-- A word in lower case. -/
def lowerWord (s : Bytes) : Bytes :=
  s.map fun b => if 'A'.toUInt8 ≤ b && b ≤ 'Z'.toUInt8 then b + 32 else b

/-- A number as a weight, if it is one; a number that is not positive is no weight. -/
def ofNumber? (s : Bytes) : Option (Option Weight) :=
  let (negative, body) := Written.splitSign s
  let signed (w : Weight) : Option Weight := if negative then none else some w
  let word := lowerWord body
  if word = Bytes.ofString "inf" || word = Bytes.ofString "infinity" then some (signed infinite)
  else if lowerWord s = Bytes.ofString "nan" then some (some undefined)
  else do
    let value ← BinaryNumber.read? .single body
    return if value.mantissa = 0 then none else signed (finite value)

/-- What stands behind a character and the blanks around it. -/
def behind? (c : Char) (s : Bytes) : Option Bytes :=
  match s with
  | b :: rest => if b == c.toUInt8 then some (Bytes.trim rest) else none
  | [] => none

/-- The weight that a text gives, which may be none. -/
def read? (s : Bytes) : Option (Option Weight) :=
  if s.isEmpty then some (some one)
  else (behind? 'q' s).bind fun rest => (behind? '=' rest).bind ofNumber?

end Weight

-- ── Lists ───────────────────────────────────────────────────────────────────────

/-- The names that stand for tags. -/
def namedTags : List (String × String) :=
  [ ("english", "en"), ("deutsch", "de"), ("italian", "it"), ("french", "fr"), ("*", "mul") ]

/-- The tag of an entry. -/
def entryTag? (s : Bytes) : Option Tag :=
  (parse? s).or <|
    (namedTags.find? fun e => Bytes.ofString e.1 = s).map fun e => ⟨some e.2, none, none, [], []⟩

/-- The tag of an entry with its weight.  An entry without a positive weight has none. -/
def entry? (s : Bytes) : Option (Option (Tag × Weight)) := do
  let (name, weight) := (Bytes.splitAt? ';'.toUInt8 s).getD (s, [])
  let tag ← entryTag? (Bytes.trim name)
  let weight ← Weight.read? (Bytes.trim weight)
  return weight.map fun w => (tag, w)

/-- A list with one more entry, in front of those at the end that weigh less. -/
def insertByWeight (sorted : List (Tag × Weight)) (e : Tag × Weight) : List (Tag × Weight) :=
  let lighter := (sorted.reverse.takeWhile fun x => e.2.exceeds x.2).length
  sorted.take (sorted.length - lighter) ++ e :: sorted.drop (sorted.length - lighter)

/-- The largest number of hyphens in a preference. -/
def hyphenLimit : Nat := 1000

/-- The tags of a preference, the weightiest first. -/
def preference? (s : Bytes) : Option (List Tag) :=
  if hyphenLimit < s.count '-'.toUInt8 then none
  else do
    let texts := ((Bytes.splitOn ','.toUInt8 s).map Bytes.trim).filter fun t => !t.isEmpty
    let entries ← texts.mapM entry?
    return ((entries.filterMap id).foldl insertByWeight []).map Prod.fst

end Locale

end TwoPass
