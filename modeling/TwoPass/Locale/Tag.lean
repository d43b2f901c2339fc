import TwoPass.Locale.Languages
import TwoPass.Locale.Regions
import TwoPass.Locale.Scripts
import TwoPass.Text.Utf8

/-!
# Language tags

A tag is a list of subtags between hyphens: a language, and then in this order a script, a
region, variants and extensions, all of which may be missing.  Each part must be known.  An
extension starts with a subtag of one character; of all extensions only the keywords of `u`
matter here.  Case does not count, and underscores stand for hyphens.

A few old tags have no such structure; they stand for tags that have it.
-/

namespace TwoPass

namespace Locale

/-- A tag, with everything in lower case.  A keyword has at most one value. -/
structure Tag where
  language : Option String
  script : Option String
  region : Option String
  variants : List String
  keywords : List (String × String)
  deriving DecidableEq, Repr

-- ── Subtags ─────────────────────────────────────────────────────────────────────

/-- The lower case of a character of a tag. -/
def fold (b : UInt8) : UInt8 :=
  if b == '_'.toUInt8 then '-'.toUInt8
  else if 'A'.toUInt8 ≤ b && b ≤ 'Z'.toUInt8 then b + 32
  else b

/-- The characters of ASCII text. -/
def asciiText (s : Bytes) : String := String.ofList (s.map fun b => Char.ofNat b.toNat)

/-- Whether a text is a subtag: one to eight letters and digits. -/
def isSubtag (s : Bytes) : Bool :=
  1 ≤ s.length && s.length ≤ 8 && s.all fun b => Bytes.isLetter b || Bytes.isDigit b

/-- Whether a subtag has a letter at a place. -/
def hasLetterAt (place : Nat) (subtag : String) : Bool :=
  (subtag.toList.drop place).head?.any Char.isAlpha

/-- The tags without structure. -/
def irregular : List (String × List String) :=
  [ ("art-lojban", ["jbo"]), ("cel-gaulish", ["xtg", "x", "cel", "gaulish"]),
    ("en-gb-oed", ["en", "gb", "oxendict"]), ("en-us-posix", ["en", "us", "u", "va", "posix"]),
    ("i-ami", ["ami"]), ("i-bnn", ["bnn"]), ("i-default", ["en", "x", "i", "default"]),
    ("i-enochian", ["und", "x", "i", "enochian"]), ("i-hak", ["hak"]), ("i-klingon", ["tlh"]),
    ("i-lux", ["lb"]), ("i-mingo", ["see", "x", "i", "mingo"]), ("i-navajo", ["nv"]),
    ("i-pwn", ["pwn"]), ("i-tao", ["tao"]), ("i-tay", ["tay"]), ("i-tsu", ["tsu"]),
    ("no-bok", ["nb"]), ("no-nyn", ["nn"]), ("root", ["und"]), ("sgn-be-fr", ["sfb"]),
    ("sgn-be-nl", ["vgt"]), ("sgn-ch-de", ["sgg"]), ("zh-guoyu", ["cmn"]), ("zh-hakka", ["hak"]),
    ("zh-min", ["nan", "x", "zh", "min"]), ("zh-min-nan", ["nan"]), ("zh-xiang", ["hsn"]) ]

/-- The length of the longest tag without structure. -/
def irregularLimit : Nat := 11

/-- A text as it is looked up among the tags without structure.  A character beyond ASCII
    counts by its lowest eight bits, with zeros for its further bytes, and zeros at the end do
    not count. -/
def irregularKey (text : Bytes) : Bytes :=
  let places : Bytes := text.glyphs.flatMap fun g =>
    let code := g.code?.getD 0xFFFD
    let byte := code.toUInt8
    (if code < 0x80 then fold byte else byte) :: List.replicate (g.bytes.length - 1) 0
  places.dropEndWhile (· == 0)

/-- The subtags that a tag without structure stands for. -/
def irregular? (text : Bytes) : Option (List String) :=
  if irregularLimit < text.length then none
  else (irregular.find? fun e => Bytes.ofString e.1 = irregularKey text).map Prod.snd

/-- The subtags of a text. -/
def subtags? (text : Bytes) : Option (List String) :=
  match irregular? text with
  | some subtags => some subtags
  | none =>
    let parts := Bytes.splitOn '-'.toUInt8 (text.map fold)
    if parts.all isSubtag then some (parts.map asciiText) else none

-- ── Parts ───────────────────────────────────────────────────────────────────────

/-- A script in front of other subtags, if there is one. -/
def script? : List String → Option (Option String × List String)
  | [] => some (none, [])
  | s :: rest =>
    if s.length = 4 && hasLetterAt 0 s then
      if isScript s then some (some s, rest) else none
    else some (none, s :: rest)

/-- A region in front of other subtags, if there is one. -/
def regionPart? : List String → Option (Option String × List String)
  | [] => some (none, [])
  | s :: rest =>
    if s.length = 2 || s.length = 3 then (region? s).map fun r => (some r, rest)
    else some (none, s :: rest)

/-- The places of the variants that come behind one of a higher or the same rank. -/
def misplaced (variants : List String) : List Nat :=
  let ranks := variants.map fun v => variantNames.idxOf v
  (List.range ranks.length).filter fun i => (ranks.take i).any fun r => ranks.getD i 0 ≤ r

/-- Whether variants, each of which is there once, are out of order. -/
def areShuffled (variants : List String) : Bool :=
  !(misplaced variants).isEmpty && variants.eraseDups.length = variants.length

/-- The number of variants that may come in any order. -/
def shuffleLimit : Nat := 8

/-- Variants in front of other subtags. -/
def variants? (subtags : List String) : Option (List String × List String) :=
  let found := subtags.takeWhile fun s => 4 ≤ s.length
  if found.all variantNames.contains && (misplaced found).all fun i => i < shuffleLimit then
    some (found, subtags.drop found.length)
  else none

/-- Whether a subtag is a language that stands behind another. -/
def isFurtherLanguage (s : String) : Bool := s.length = 3 && hasLetterAt 0 s

/-- The last of some languages, each in the place of the one in front of it. -/
def lastLanguage? (language : Option String) : List String → Option (Option String)
  | [] => some language
  | s :: rest => do lastLanguage? ((← language? s).or language) rest

/-- Former languages, with those that replace them. -/
def formerLanguages : List (String × String) :=
  [ ("in", "id"), ("iw", "he"), ("ji", "yi"), ("jw", "jv"), ("mo", "ro"), ("sh", "sr"),
    ("swc", "sw"), ("tl", "fil"), ("tw", "ak") ]

/-- The language that stands for another now. -/
def currentLanguage (code : String) : String := (formerLanguages.lookup code).getD code

/-- A tag without extensions, and the subtags behind it. -/
def core? (subtags : List String) : Option (Tag × List String) :=
  match subtags with
  | [] => none
  | first :: rest => do
    let further := rest.takeWhile isFurtherLanguage
    let language ← lastLanguage? (← language? first) further
    let (script, rest) ← script? (rest.drop further.length)
    let (region, rest) ← regionPart? rest
    let (variants, rest) ← variants? rest
    return (⟨language.map currentLanguage, script, region, variants, []⟩, rest)

-- ── Extensions ──────────────────────────────────────────────────────────────────

/-- The keywords of an extension with all of their values.  The fuel is the number of
    subtags. -/
def keywordGroups : Nat → List String → List (String × List String)
  | 0, _ => []
  | _, [] => []
  | fuel + 1, key :: rest =>
    let values := rest.takeWhile fun s => 2 < s.length
    (key, values) :: keywordGroups fuel (rest.drop values.length)

/-- Whether no keyword has two different lists of values. -/
def areConsistent : List (String × List String) → Bool
  | [] => true
  | (key, values) :: rest =>
    (rest.all fun e => e.1 != key || e.2 == values) && areConsistent rest

/-- The keywords of an extension, each with its first value.  Attributes stand in front of
    them. -/
def keywords? (body : List String) : Option (List (String × String)) :=
  let groups := keywordGroups body.length (body.dropWhile fun s => 2 < s.length)
  if areConsistent groups then some (groups.map fun e => (e.1, e.2.headD "")) else none

/-- What stands behind fields, each a letter and a digit with values.  The fuel is the number
    of subtags. -/
def afterFields : Nat → List String → List String
  | 0, subtags => subtags
  | _, [] => []
  | fuel + 1, key :: rest =>
    if key.length = 2 && !hasLetterAt 1 key then
      afterFields fuel (rest.dropWhile fun s => 3 ≤ s.length)
    else key :: rest

/-- What stands behind a tag inside an extension, if there is one. -/
def afterInnerTag? : List String → Option (List String)
  | [] => some []
  | first :: rest =>
    if (first.length = 2 || first.length = 3) && hasLetterAt 1 first then do
      let _ ← language? first
      let (_, rest) ← script? (rest.dropWhile isFurtherLanguage)
      let (_, rest) ← regionPart? rest
      let (_, rest) ← variants? rest
      return rest
    else some (first :: rest)

/-- The keywords of extensions.  What cannot be an extension behind one is left out.  The fuel
    is the number of subtags. -/
def extensions? : Nat → List String → Option (List (String × String))
  | 0, _ => some []
  | _, [] => some []
  | fuel + 1, mark :: rest =>
    let body := rest.takeWhile fun s => 2 ≤ s.length
    let behind := rest.drop body.length
    if mark.length != 1 then some []
    else if mark = "x" then if rest.isEmpty then none else some []
    else if mark = "u" then
      if body.isEmpty then none
      else do return (← keywords? body) ++ (← extensions? fuel behind)
    else if mark = "t" then do
      let behind := afterFields rest.length (← afterInnerTag? rest)
      if behind.length = rest.length then none else extensions? fuel behind
    else if body.isEmpty then none
    else extensions? fuel behind

/-- The keywords of extensions behind variants that are out of order.  The first extension loses
    its mark to the variants: it may be empty, and its keywords do not count. -/
def shuffledExtensions? (subtags : List String) : Option (List (String × String)) :=
  let behind := (subtags.drop 1).dropWhile fun s => 2 ≤ s.length
  if subtags.head? = some "x" then some []
  else if behind.length + 1 = subtags.length then extensions? behind.length behind
  else do
    let _ ← extensions? subtags.length subtags
    extensions? behind.length behind

/-- The tag of a list of subtags. -/
def ofSubtags? (subtags : List String) : Option Tag :=
  match subtags with
  | [] => none
  | "x" :: rest => if rest.isEmpty then none else some ⟨none, none, none, [], []⟩
  | subtags => do
    let (tag, rest) ← core? subtags
    if rest.isEmpty then return tag
    if rest.head?.any fun s => s.length = 1 then
      let keywords ←
        if areShuffled tag.variants then shuffledExtensions? rest else extensions? rest.length rest
      return { tag with keywords }
    none

/-- The tag of a text. -/
def parse? (text : Bytes) : Option Tag := (subtags? text).bind ofSubtags?

end Locale

end TwoPass
