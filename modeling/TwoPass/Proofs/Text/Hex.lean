import TwoPass.Proofs.Text.Numerals

/-!
# Hexadecimal text — what is written is read back

Addresses are written with as many digits as they need and zeros in front, bytes with two digits
each, all in lower case.  The two readers here accept nothing but such digits.  Each undoes its
writer: zeros in front do not change a number (`ofHexDigits?_hexPadded`), and two digits hold a byte
(`ofHex?_toHex`).
-/

namespace TwoPass

namespace Bytes

/-- The value of a hexadecimal digit in lower case. -/
def hexValue? (b : UInt8) : Option Nat := (List.range 16).find? fun d => digitByte d == b

/-- A hexadecimal digit in lower case. -/
def isHexDigit (b : UInt8) : Bool := (hexValue? b).isSome

/-- The number that hexadecimal digits stand for, if there are digits and nothing else. -/
def ofHexDigits? (s : Bytes) : Option Nat :=
  if s = [] then none else (s.mapM hexValue?).map (joinDigits 16 0)

/-- The bytes that pairs of hexadecimal digits stand for. -/
def ofHex? : Bytes → Option Bytes
  | [] => some []
  | [_] => none
  | a :: b :: rest => do
    let high ← hexValue? a
    let low ← hexValue? b
    return (16 * high + low).toUInt8 :: (← ofHex? rest)

theorem hexValue?_digitByte {d : Nat} (h : d < 16) : hexValue? (digitByte d) = some d := by
  revert d
  decide

theorem isHexDigit_digitByte {d : Nat} (h : d < 16) : isHexDigit (digitByte d) = true := by
  rw [isHexDigit, hexValue?_digitByte h]
  rfl

/-- No hexadecimal digit is a blank. -/
theorem ne_blank_of_isHexDigit {b : UInt8} (h : isHexDigit b = true) : b ≠ ' '.toUInt8 := by
  rintro rfl
  exact absurd h (by decide)

/-- Zeros in front of digits do not count. -/
theorem joinDigits_replicate (base k : Nat) (ds : List Nat) :
    joinDigits base 0 (List.replicate k 0 ++ ds) = joinDigits base 0 ds := by
  induction k with
  | zero => rfl
  | succ k ih =>
      rw [List.replicate_succ, List.cons_append, joinDigits, List.foldl_cons, Nat.zero_mul,
        Nat.zero_add]
      exact ih

/-! ## Numbers -/

/-- The digits of a number with zeros in front up to a width. -/
def hexDigits (width n : Nat) : List Nat :=
  List.replicate (width - (digits 16 n).length) 0 ++ digits 16 n

/-- The digits of a number, with zeros in front up to a width. -/
theorem hexPadded_natCast (width n : Nat) :
    hexPadded width n = (hexDigits width n).map digitByte := by
  have hsign : ¬ (n : Int) < 0 := Int.not_lt.mpr (Int.natCast_nonneg n)
  simp only [hexPadded, if_neg hsign, Int.natAbs_natCast, hexNat, hexDigits, List.map_append,
    List.map_replicate, List.length_map, List.length_nil, Nat.sub_zero, List.nil_append]
  rfl

theorem hexDigits_lt {width n d : Nat} (h : d ∈ hexDigits width n) : d < 16 := by
  rcases List.mem_append.mp h with h | h
  · rw [List.eq_of_mem_replicate h]
    decide
  · exact digits_lt 16 n (by decide) d h

/-- A padded number is written with digits only. -/
theorem isHexDigit_of_mem_hexPadded {width n : Nat} :
    ∀ b ∈ hexPadded width n, isHexDigit b = true := by
  intro b hb
  rw [hexPadded_natCast] at hb
  obtain ⟨d, hd, rfl⟩ := List.mem_map.mp hb
  exact isHexDigit_digitByte (hexDigits_lt hd)

/-- It has at least as many as its width. -/
theorem le_length_hexPadded (width n : Nat) : width ≤ (hexPadded width n).length := by
  rw [hexPadded_natCast, List.length_map, hexDigits, List.length_append, List.length_replicate]
  omega

/-- **BACK FROM HEXADECIMAL.**  A number is read back whatever the width it was padded to. -/
theorem ofHexDigits?_hexPadded (width n : Nat) : ofHexDigits? (hexPadded width n) = some n := by
  have hne : hexPadded width n ≠ [] := by
    rw [hexPadded_natCast, hexDigits, List.map_append]
    refine List.append_ne_nil_of_right_ne_nil _ fun hnil => ?_
    exact digits_ne_nil 16 n (List.map_eq_nil_iff.mp hnil)
  have hvalues : (hexPadded width n).mapM hexValue? = some (hexDigits width n) := by
    rw [hexPadded_natCast, mapM_eq_some, List.forall₂_map_left_iff, List.forall₂_same]
    intro d hd
    exact hexValue?_digitByte (hexDigits_lt hd)
  rw [ofHexDigits?, if_neg hne, hvalues, Option.map_some, hexDigits, joinDigits_replicate,
    joinDigits_digits]

/-! ## Bytes -/

theorem div_lt_sixteen (b : UInt8) : b.toNat / 16 < 16 := by
  have hlt := b.toNat_lt
  omega

/-- Bytes are written with digits only. -/
theorem isHexDigit_of_mem_toHex {s : Bytes} : ∀ b ∈ toHex s, isHexDigit b = true := by
  intro b hb
  obtain ⟨c, -, hb⟩ := List.mem_flatMap.mp hb
  rcases List.mem_cons.mp hb with rfl | hb
  · exact isHexDigit_digitByte (div_lt_sixteen c)
  · rw [List.mem_singleton.mp hb]
    exact isHexDigit_digitByte (Nat.mod_lt _ (by decide))

/-- Bytes are read back from their digits. -/
theorem ofHex?_toHex (s : Bytes) : ofHex? (toHex s) = some s := by
  induction s with
  | nil => rfl
  | cons b s ih =>
      have hhigh := hexValue?_digitByte (div_lt_sixteen b)
      have hlow := hexValue?_digitByte (Nat.mod_lt b.toNat (by decide : 0 < 16))
      have hbyte : (16 * (b.toNat / 16) + b.toNat % 16).toUInt8 = b := by
        rw [Nat.div_add_mod]
        exact UInt8.ofNat_toNat
      show ofHex? (digitByte (b.toNat / 16) :: digitByte (b.toNat % 16) :: toHex s) = _
      rw [ofHex?, hhigh, hlow, ih]
      exact congrArg (fun b => some (b :: s)) hbyte

end Bytes

end TwoPass
