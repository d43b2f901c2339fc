import TwoPass.Text.Bytes

/-!
# Base 64 — bytes in letters, digits and two signs

Three bytes are written as four characters of six bits each.  One or two bytes at the end
are filled up with zero bits, and equals signs stand for the missing characters.
-/

namespace TwoPass

namespace Base64

/-- The character that writes six bits. -/
def character (n : Nat) : UInt8 :=
  if n < 26 then 'A'.toUInt8 + n.toUInt8
  else if n < 52 then 'a'.toUInt8 + (n - 26).toUInt8
  else if n < 62 then '0'.toUInt8 + (n - 52).toUInt8
  else if n = 62 then '+'.toUInt8
  else '/'.toUInt8

/-- The four groups of six bits of a number of 24 bits. -/
def sextets (n : Nat) : List Nat := [n / 262144 % 64, n / 4096 % 64, n / 64 % 64, n % 64]

/-- Bytes in base 64. -/
def encode : Bytes → Bytes
  | [] => []
  | [a] => ((sextets (a.toNat * 65536)).take 2).map character ++ Bytes.ofString "=="
  | [a, b] =>
    ((sextets (a.toNat * 65536 + b.toNat * 256)).take 3).map character ++ Bytes.ofString "="
  | a :: b :: c :: rest =>
    (sextets (a.toNat * 65536 + b.toNat * 256 + c.toNat)).map character ++ encode rest

end Base64

end TwoPass
