import TwoPass.Text.Utf8

/-!
# Letter case — which texts spell an ASCII name

Names of the assembly language are lower-case ASCII and are matched without regard to
case, in two ways that are **not** the same relation.

* *Lower-casing* maps each code point to its lower case.  Beside `A`–`Z`, two code
  points have an ASCII lower case: U+0130, the dotted capital `I`, and U+212A, the
  Kelvin sign.
* *Folding* compares code points by their folding class.  Beside the letters
  themselves, U+017F, the long `s`, and U+212A share a class with an ASCII letter;
  U+0130 is alone in its class.

So a name with a dotted capital `I` is spelled by lower-casing and not by folding.
-/

namespace TwoPass

/-- The ASCII character that a code point lower-cases to, if it is one. -/
def lowerAscii? (code : Nat) : Option UInt8 :=
  if 0x41 ≤ code && code ≤ 0x5A then some (code + 0x20).toUInt8
  else if code < 0x80 then some code.toUInt8
  else if code == 0x130 then some 'i'.toUInt8
  else if code == 0x212A then some 'k'.toUInt8
  else none

/-- The lower-case ASCII character in the folding class of a code point, if there is
    one. -/
def foldAscii? (code : Nat) : Option UInt8 :=
  if 0x41 ≤ code && code ≤ 0x5A then some (code + 0x20).toUInt8
  else if code < 0x80 then some code.toUInt8
  else if code == 0x17F then some 's'.toUInt8
  else if code == 0x212A then some 'k'.toUInt8
  else none

namespace Bytes

/-- The ASCII text that a text lower-cases to, if it is ASCII. -/
def lowerAscii? (s : Bytes) : Option Bytes :=
  s.glyphs.mapM fun g => g.code?.bind TwoPass.lowerAscii?

/-- The lower-case ASCII text that a text folds to, if there is one. -/
def foldAscii? (s : Bytes) : Option Bytes :=
  s.glyphs.mapM fun g => g.code?.bind TwoPass.foldAscii?

end Bytes

end TwoPass
