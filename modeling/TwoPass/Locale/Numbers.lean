import TwoPass.Locale.Tag
import TwoPass.Messages.Catalogue
import TwoPass.Text.Utf8

/-!
# Numbers in locales

The digits of a number are set apart in groups, by a mark that depends on the language and the
region.  A tag can ask for other digits, and for the habits of another region.
-/

namespace TwoPass

/-- How the digits of a number are set apart: not at all, by threes, or three at the end and
    the others by twos. -/
inductive Grouping where
  | none
  | threes
  | twosBehindThree
  deriving DecidableEq, Repr

/-- A way of writing numbers.  The digits are given by that for zero. -/
structure NumberStyle where
  zeroCode : Nat
  grouping : Grouping
  mark : Bytes
  minus : Bytes
  plus : Bytes
  deriving DecidableEq, Repr

namespace NumberStyle

/-- Whether a mark stands in front of a number of digits. -/
def isMarked (s : NumberStyle) (behind : Nat) : Bool :=
  match s.grouping with
  | .none => false
  | .threes => behind != 0 && behind % 3 == 0
  | .twosBehindThree => 3 ≤ behind && (behind - 3) % 2 == 0

/-- Digits with their marks. -/
def digits (s : NumberStyle) : List Nat → Bytes
  | [] => []
  | d :: rest =>
    let mark := if s.isMarked rest.length then s.mark else []
    Bytes.ofCode (s.zeroCode + d) ++ mark ++ s.digits rest

end NumberStyle

namespace Locale

/-- Digits of other scripts, by the one for zero. -/
def digitSystems : List (String × Nat) :=
  [ ("adlm", 0x1E950), ("ahom", 0x11730), ("arab", 0x660), ("arabext", 0x6F0), ("bali", 0x1B50),
    ("beng", 0x9E6), ("bhks", 0x11C50), ("brah", 0x11066), ("cakm", 0x11136), ("cham", 0xAA50),
    ("deva", 0x966), ("fullwide", 0xFF10), ("gonm", 0x11D50), ("gujr", 0xAE6), ("guru", 0xA66),
    ("hmng", 0x16B50), ("java", 0xA9D0), ("kali", 0xA900), ("khmr", 0x17E0), ("knda", 0xCE6),
    ("lana", 0x1A80), ("lanatham", 0x1A90), ("laoo", 0xED0), ("lepc", 0x1C40), ("limb", 0x1946),
    ("mathbold", 0x1D7CE), ("mathdbl", 0x1D7D8), ("mathmono", 0x1D7F6), ("mathsanb", 0x1D7EC),
    ("mathsans", 0x1D7E2), ("mlym", 0xD66), ("modi", 0x11650), ("mong", 0x1810), ("mroo", 0x16A60),
    ("mtei", 0xABF0), ("mymr", 0x1040), ("mymrshan", 0x1090), ("mymrtlng", 0xA9F0),
    ("newa", 0x11450), ("nkoo", 0x7C0), ("olck", 0x1C50), ("orya", 0xB66), ("osma", 0x104A0),
    ("saur", 0xA8D0), ("shrd", 0x111D0), ("sind", 0x112F0), ("sinh", 0xDE6), ("sora", 0x110F0),
    ("sund", 0x1BB0), ("takr", 0x116C0), ("talu", 0x19D0), ("tamldec", 0xBE6), ("telu", 0xC66),
    ("thai", 0xE50), ("tibt", 0xF20), ("tirh", 0x114D0), ("vaii", 0xA620), ("wara", 0x118E0) ]

/-- A point. -/
def point : Bytes := Bytes.ofString "."

/-- A space that no line ends at. -/
def fixedSpace : Bytes := Bytes.ofCode 0xA0

/-- The mark between groups in a language and region. -/
def groupMark : Language → Option String → Bytes
  | .german, region =>
    if region == some "at" then fixedSpace
    else if region == some "ch" || region == some "li" then Bytes.ofCode 0x2019
    else point
  | .english, region =>
    if region.any ["at", "be", "ch", "de", "dk", "nl", "si"].contains then point
    else if region.any ["fi", "se", "za"].contains then fixedSpace
    else Bytes.ofString ","

/-- How numbers are written in a language and region, with digits that a tag asks for.  In the
    variant for machines there are no groups. -/
def numberStyle (language : Language) (region : Option String) (system variant : Option String) :
    NumberStyle :=
  let isEnglishIn (r : String) : Bool := language = .english && region == some r
  let grouping : Grouping :=
    if isEnglishIn "us" && variant == some "posix" then .none
    else if isEnglishIn "in" then .twosBehindThree
    else .threes
  let plain : NumberStyle :=
    ⟨'0'.toNat, grouping, groupMark language region, Bytes.ofString "-", Bytes.ofString "+"⟩
  match system.bind fun name => digitSystems.lookup name with
  | none => plain
  | some zeroCode =>
    if system == some "arab" then
      let sign (c : Char) : Bytes := Bytes.ofCode 0x61C ++ [c.toUInt8]
      { plain with zeroCode, mark := Bytes.ofCode 0x66C, minus := sign '-', plus := sign '+' }
    else if system == some "arabext" then
      let sign (c : Char) : Bytes := Bytes.ofCode 0x200E ++ c.toUInt8 :: Bytes.ofCode 0x200E
      { plain with zeroCode, mark := Bytes.ofCode 0x66C, minus := sign '-', plus := sign '+' }
    else { plain with zeroCode }

/-- The region that a keyword asks for. -/
def overridingRegion? (value : String) : Option String :=
  let letters := value.toList
  if letters.length = 6 && letters.drop 2 == "zzzz".toList then
    knownRegion? (String.ofList (letters.take 2))
  else none

/-- The region whose habits count for messages that are tagged with a region: another that the
    tag names, or else the one that a keyword asks for. -/
def habitRegion (tagged : Option String) (tag : Tag) : Option String :=
  if tag.region != tagged && tag.region.any fun r => r.length = 2 then tag.region
  else ((tag.keywords.lookup "rg").bind overridingRegion?).or tagged

/-- How numbers are written in messages that were chosen for a tag. -/
def Tag.numberStyle (t : Tag) (language : Language) (tagged : Option String) : NumberStyle :=
  Locale.numberStyle language (habitRegion tagged t) (t.keywords.lookup "nu")
    (t.keywords.lookup "va")

end Locale

end TwoPass
