import TwoPass.Text.Utf8

/-!
# Blanks and words

White space is the Unicode property of that name, and a byte outside any valid
encoding is never blank.  Text is trimmed and cut into words at blanks; a word is a
maximal run of glyphs that are no separators, so no word is empty.
-/

namespace TwoPass

/-- The code points with the White_Space property. -/
def isBlankCode (code : Nat) : Bool :=
  (0x09 ≤ code && code ≤ 0x0D) || code == 0x20 || code == 0x85 || code == 0xA0
    || code == 0x1680 || (0x2000 ≤ code && code ≤ 0x200A) || code == 0x2028 || code == 0x2029
    || code == 0x202F || code == 0x205F || code == 0x3000

/-- A glyph that is white space. -/
def Glyph.isBlank (g : Glyph) : Bool := g.code?.any isBlankCode

namespace Bytes

/-- The text without the white space at its two ends. -/
def trim (s : Bytes) : Bytes :=
  ofGlyphs ((s.glyphs.dropWhile Glyph.isBlank).reverse.dropWhile Glyph.isBlank).reverse

/-- One glyph in front of words already found.  The flag says whether the first of
    them stands directly behind the glyph, so that the glyph belongs to it. -/
def wordStep (separator : Glyph → Bool) (g : Glyph) : List Bytes × Bool → List Bytes × Bool
  | (ws, touching) =>
    if separator g then (ws, false)
    else match ws, touching with
      | w :: rest, true => ((g.bytes ++ w) :: rest, true)
      | ws, _ => (g.bytes :: ws, true)

/-- The maximal runs of glyphs that are no separators. -/
def wordsBy (separator : Glyph → Bool) (s : Bytes) : List Bytes :=
  (s.glyphs.foldr (wordStep separator) ([], false)).1

/-- The words of a text: its maximal runs without white space. -/
def words (s : Bytes) : List Bytes := wordsBy Glyph.isBlank s

end Bytes

end TwoPass
