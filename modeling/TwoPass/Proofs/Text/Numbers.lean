import Mathlib.Algebra.Group.Nat.Defs
import TwoPass.Text.Bytes

/-!
# Numbers in text — big-endian bytes and decimal digits

A number is written in a fixed number of bytes, most significant first, or as decimal
digits.  The bytes hold the number as far as there is room; the digits are ASCII digits, and
there is always at least one.  A string with the number in it has the same digits
(`ofString_toString`).
-/

namespace TwoPass

namespace Bytes

/-! ## Big-endian bytes -/

@[simp] theorem length_bigEndian (size n : Nat) : (bigEndian size n).length = size := by
  induction size generalizing n with
  | zero => rfl
  | succ size ih => rw [bigEndian, List.length_append, ih, List.length_singleton]

/-- The number that bytes stand for, most significant first. -/
def ofBigEndian (s : Bytes) : Nat := s.foldl (fun n b => n * 256 + b.toNat) 0

/-- Bytes hold as much of a number as there is room for. -/
theorem ofBigEndian_bigEndian (size n : Nat) :
    ofBigEndian (bigEndian size n) = n % 256 ^ size := by
  induction size generalizing n with
  | zero => rw [Nat.pow_zero, Nat.mod_one]; rfl
  | succ size ih =>
      have hlast : (Nat.toUInt8 n).toNat = n % 256 := rfl
      have hfront : (bigEndian size (n / 256)).foldl (fun n b => n * 256 + b.toNat) 0
          = n / 256 % 256 ^ size := ih (n / 256)
      rw [ofBigEndian, bigEndian, List.foldl_append, List.foldl_cons, List.foldl_nil, hfront,
        hlast, Nat.pow_succ, Nat.mul_comm (256 ^ size), Nat.mod_mul]
      omega

/-- The first of the bytes that hold a number. -/
theorem bigEndian_succ (size n : Nat) :
    bigEndian (size + 1) n = (n / 256 ^ size).toUInt8 :: bigEndian size n := by
  induction size generalizing n with
  | zero =>
      rw [Nat.pow_zero, Nat.div_one]
      rfl
  | succ size ih =>
      rw [bigEndian, ih (n / 256), Nat.div_div_eq_div_mul, ← Nat.pow_add_one', bigEndian,
        List.cons_append]

/-! ## Decimal digits -/

/-- Digits are below their base. -/
theorem digits_lt (base n : Nat) (hbase : 2 ≤ base) : ∀ d ∈ digits base n, d < base := by
  induction n using Nat.strongRecOn with
  | _ n ih =>
      intro d hd
      rw [digits] at hd
      split at hd
      · rename_i hlt
        obtain rfl := List.mem_singleton.mp hd
        omega
      · rename_i hge
        rcases List.mem_append.mp hd with hd | hd
        · exact ih _ (Nat.div_lt_self (by omega) (by omega)) d hd
        · rw [List.mem_singleton.mp hd]
          exact Nat.mod_lt _ (by omega)

theorem digits_ne_nil (base n : Nat) : digits base n ≠ [] := by
  rw [digits]
  split
  · exact List.cons_ne_nil _ _
  · exact List.append_ne_nil_of_right_ne_nil _ (List.cons_ne_nil _ _)

theorem isDigit_digitByte {d : Nat} (h : d < 10) : isDigit (digitByte d) = true := by
  revert d
  decide

/-- A decimal number is written with digits. -/
theorem isDigit_of_mem_decimalNat {n : Nat} : ∀ b ∈ decimalNat n, isDigit b = true := by
  intro b hb
  obtain ⟨d, hd, rfl⟩ := List.mem_map.mp hb
  exact isDigit_digitByte (digits_lt 10 n (by decide) d hd)

theorem decimalNat_ne_nil (n : Nat) : decimalNat n ≠ [] := by
  intro h
  exact digits_ne_nil 10 n (List.map_eq_nil_iff.mp h)

/-- A number is written with digits and at most a minus. -/
theorem mem_decimal {a : Int} : ∀ b ∈ decimal a, isDigit b = true ∨ b = '-'.toUInt8 := by
  intro b hb
  cases a with
  | ofNat n => exact Or.inl (isDigit_of_mem_decimalNat b hb)
  | negSucc n =>
      rcases List.mem_cons.mp hb with rfl | hb
      · exact Or.inr rfl
      · exact Or.inl (isDigit_of_mem_decimalNat b hb)

/-- No number is written as nothing. -/
theorem decimal_ne_nil (a : Int) : decimal a ≠ [] := by
  cases a with
  | ofNat n => exact decimalNat_ne_nil n
  | negSucc n => exact List.cons_ne_nil _ _

/-! ## Numbers in strings -/

theorem ofString_append (s t : String) : ofString (s ++ t) = ofString s ++ ofString t := by
  rw [ofString, String.toList_append, List.flatMap_append, ofString, ofString]

theorem utf8EncodeChar_digitChar {d : Nat} (h : d < 10) :
    String.utf8EncodeChar d.digitChar = [digitByte d] := by
  revert d
  decide

/-- Both ways of writing a decimal number agree. -/
theorem flatMap_toDigits (n : Nat) :
    (Nat.toDigits 10 n).flatMap String.utf8EncodeChar = decimalNat n := by
  induction n using Nat.strongRecOn with
  | _ n ih =>
      rw [decimalNat, digits]
      split
      · have hlt : n < 10 := by omega
        rw [Nat.toDigits_of_lt_base hlt, List.flatMap_singleton, utf8EncodeChar_digitChar hlt]
        rfl
      · rw [Nat.toDigits_of_base_le (by decide) (by omega), List.flatMap_append, List.map_append,
          ih (n / 10) (Nat.div_lt_self (by omega) (by omega)), List.flatMap_singleton,
          utf8EncodeChar_digitChar (Nat.mod_lt n (by decide))]
        rfl

/-- A number in a string is written with the same digits as in bytes. -/
theorem ofString_toString (n : Nat) : ofString (toString n) = decimalNat n := by
  rw [ofString, Nat.toString_eq_repr, Nat.toList_repr, flatMap_toDigits]

theorem ofString_toString_int (n : Int) : ofString (toString n) = decimal n := by
  cases n with
  | ofNat n => exact ofString_toString n
  | negSucc n =>
      show ofString ("-" ++ toString (n + 1)) = _
      rw [ofString_append, ofString_toString]
      rfl

end Bytes

end TwoPass
