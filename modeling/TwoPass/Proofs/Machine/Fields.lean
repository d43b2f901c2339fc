import Mathlib.Algebra.Group.Nat.Defs
import TwoPass.Machine.Encoding
import TwoPass.Proofs.Success

/-!
# Fields — where the bits of a word come from

A word is packed by laying operand codes over a header and is decoded by cutting its head at
fixed places.  Both are rewritten here as pieces put one behind the other.  In a long word the
pieces do not touch.  In a regular word the second operand is laid over everything: its lowest
three bits are its own, the next three fall on the first operand and the rest on the header
(`decode_pack_regular`).  So fields come back exactly if the second operand has three bits
(`decode_pack_eq_iff`), while packing what was decoded always gives the same word
(`pack_decode`).
-/

namespace TwoPass

/-! ## Pieces -/

/-- Bits put together can be taken apart. -/
theorem append_inj {n m : Nat} {x x' : BitVec n} {y y' : BitVec m} :
    x ++ y = x' ++ y' ↔ x = x' ∧ y = y' := by
  constructor
  · intro h
    have hx := congrArg (BitVec.extractLsb' m n) h
    have hy := congrArg (BitVec.extractLsb' 0 m) h
    rw [BitVec.extractLsb'_append_eq_left, BitVec.extractLsb'_append_eq_left] at hx
    rw [BitVec.extractLsb'_append_eq_right, BitVec.extractLsb'_append_eq_right] at hy
    exact ⟨hx, hy⟩
  · rintro ⟨rfl, rfl⟩
    rfl

theorem ofBool_getLsbD {n : Nat} (x : BitVec n) (k : Nat) :
    BitVec.ofBool (x.getLsbD k) = x.extractLsb' k 1 := by
  ext j hj
  obtain rfl : j = 0 := by omega
  simp

theorem zero_append {n : Nat} (m : Nat) (x : BitVec n) : 0#m ++ x = x.setWidth (m + n) := by
  ext k hk
  simp only [BitVec.getElem_append, BitVec.getElem_setWidth, BitVec.getElem_zero]
  split
  · rw [BitVec.getLsbD_eq_getElem]
  · rw [BitVec.getLsbD_of_ge x k (by omega)]

/-- A number of few bits has nothing above them. -/
theorem extractLsb'_eq_zero {n : Nat} {x : BitVec n} {k : Nat} (h : x.toNat < 2 ^ k) (m : Nat) :
    x.extractLsb' k m = 0#m := by
  apply BitVec.eq_of_toNat_eq
  rw [BitVec.extractLsb'_toNat, Nat.shiftRight_eq_div_pow, Nat.div_eq_of_lt h, Nat.zero_mod]
  rfl

/-- Sixteen bits are ten, three and three. -/
theorem eq_pieces (x : BitVec 16) :
    x = x.extractLsb' 6 10 ++ (x.extractLsb' 3 3 ++ x.extractLsb' 0 3) := by
  rw [BitVec.extractLsb'_append_extractLsb'_eq_extractLsb' (by rfl),
    BitVec.extractLsb'_append_extractLsb'_eq_extractLsb' (by rfl), BitVec.extractLsb'_eq_self]

/-- Three bits in sixteen stand behind zeros. -/
theorem setWidth_eq_pieces (x : BitVec 3) : x.setWidth 16 = 0#10 ++ (0#3 ++ x) := by
  rw [zero_append, zero_append, BitVec.setWidth_setWidth (by decide)]

theorem setWidth_inj {x y : BitVec 3} : x.setWidth 16 = y.setWidth 16 ↔ x = y := by
  rw [setWidth_eq_pieces, setWidth_eq_pieces, BitVec.append_right_inj, BitVec.append_right_inj]

/-- Three bits shifted over three others hold both. -/
theorem shift_or_inj {a b a' b' : BitVec 3} :
    (a.setWidth 16 <<< 3) ||| b.setWidth 16 = (a'.setWidth 16 <<< 3) ||| b'.setWidth 16 ↔
      a = a' ∧ b = b' := by
  have hpieces : ∀ a b : BitVec 3,
      (a.setWidth 16 <<< 3) ||| b.setWidth 16 = (0#10 ++ (a ++ b) : BitVec (10 + (3 + 3))) := by
    intro a b
    rw [zero_append, BitVec.setWidth_append_eq_shiftLeft_setWidth_or]
  rw [hpieces, hpieces, BitVec.append_right_inj, append_inj]

/-- The code of a first operand is cut to three bits. -/
theorem and_seven (a : BitVec 16) : a &&& 0x7 = (a.setWidth 3).setWidth 16 := by
  exact (BitVec.and_setWidth_allOnes 13 3 a).trans (zero_append 13 _)

theorem and_seven_setWidth (a : BitVec 3) : a.setWidth 16 &&& 0x7 = a.setWidth 16 := by
  rw [and_seven, BitVec.setWidth_setWidth_of_le a (by decide), BitVec.setWidth_eq]

namespace Fields

/-- The ten leading bits of a word. -/
def leading (f : Fields) : BitVec 10 :=
  f.code ++ BitVec.ofBool f.high ++ BitVec.ofBool f.low ++ BitVec.ofBool f.setFlags
    ++ BitVec.ofBool f.signed

/-- The word that holds fields, in the layout of an encoded instruction. -/
def pack (f : Fields) (long : Bool) : Word :=
  Instruction.pack (f.leading ++ 0#6) (f.a.setWidth 16) f.b long

/-- The leading bits are those of five fields, one behind the other. -/
theorem leading_inj {f g : Fields} :
    f.leading = g.leading ↔ f.code = g.code ∧ f.high = g.high ∧ f.low = g.low ∧
      f.setFlags = g.setFlags ∧ f.signed = g.signed := by
  rw [leading, leading, append_inj, append_inj, append_inj, append_inj, BitVec.ofBool_eq_iff_eq,
    BitVec.ofBool_eq_iff_eq, BitVec.ofBool_eq_iff_eq, BitVec.ofBool_eq_iff_eq, and_assoc, and_assoc,
    and_assoc]

/-- Fields are equal if the bits in front and both operands are. -/
theorem eq_iff {f g : Fields} : f = g ↔ f.leading = g.leading ∧ f.a = g.a ∧ f.b = g.b := by
  rw [leading_inj]
  constructor
  · rintro rfl
    exact ⟨⟨rfl, rfl, rfl, rfl, rfl⟩, rfl, rfl⟩
  · obtain ⟨code, high, low, setFlags, signed, a, b⟩ := f
    rintro ⟨⟨rfl, rfl, rfl, rfl, rfl⟩, rfl, rfl⟩
    rfl

/-- The leading bits of a word are the upper ones of its head. -/
theorem leading_decode (w : Word) : w.decode.leading = w.head.extractLsb' 6 10 := by
  show w.head.extractLsb' 10 6 ++ BitVec.ofBool (w.head.getLsbD 9)
    ++ BitVec.ofBool (w.head.getLsbD 8) ++ BitVec.ofBool (w.head.getLsbD 7)
    ++ BitVec.ofBool (w.head.getLsbD 6) = w.head.extractLsb' 6 10
  rw [ofBool_getLsbD, ofBool_getLsbD, ofBool_getLsbD, ofBool_getLsbD,
    BitVec.extractLsb'_append_extractLsb'_eq_extractLsb' (by rfl),
    BitVec.extractLsb'_append_extractLsb'_eq_extractLsb' (by rfl),
    BitVec.extractLsb'_append_extractLsb'_eq_extractLsb' (by rfl),
    BitVec.extractLsb'_append_extractLsb'_eq_extractLsb' (by rfl)]

/-! ## Long words -/

/-- The head of a long word ends in the code of the first register, behind three zeros. -/
theorem head_pack_long (f : Fields) : (f.pack true).head = f.leading ++ (0#3 ++ f.a) := by
  show ((((f.leading ++ 0#6 : BitVec (10 + 6)) ||| (f.a.setWidth 16 &&& 0x7))
    ++ f.b : BitVec 32).extractLsb' 16 16) = _
  rw [BitVec.extractLsb'_append_eq_left, and_seven_setWidth, setWidth_eq_pieces, BitVec.or_append,
    BitVec.or_zero, BitVec.zero_or]

/-- A long word gives all fields back. -/
theorem decode_pack_long (f : Fields) : (f.pack true).decode = f := by
  rw [eq_iff, leading_decode, head_pack_long]
  refine ⟨BitVec.extractLsb'_append_eq_left, ?_, ?_⟩
  · show (f.pack true).head.extractLsb' 0 3 = f.a
    rw [head_pack_long, BitVec.extractLsb'_append_eq_of_add_le (by decide)]
    exact BitVec.extractLsb'_append_eq_right
  · show (f.pack true).value.setWidth 16 = f.b
    exact BitVec.setWidth_append_eq_right

/-! ## Regular words -/

/-- A second operand laid over the first, which is shifted by three. -/
theorem shift_or (f : Fields) :
    (f.a.setWidth 16 <<< 3) ||| f.b = f.b.extractLsb' 6 10
      ++ ((f.a ||| f.b.extractLsb' 3 3) ++ f.b.extractLsb' 0 3) := by
  have hshift : f.a.setWidth 16 <<< 3 = (0#10 ++ (f.a ++ 0#3) : BitVec (10 + (3 + 3))) := by
    rw [zero_append, BitVec.setWidth_append_eq_shiftLeft_setWidth_or]
    simp
  calc (f.a.setWidth 16 <<< 3) ||| f.b
      = (0#10 ++ (f.a ++ 0#3))
          ||| (f.b.extractLsb' 6 10 ++ (f.b.extractLsb' 3 3 ++ f.b.extractLsb' 0 3)) := by
        rw [hshift, ← eq_pieces f.b]
    _ = f.b.extractLsb' 6 10 ++ ((f.a ||| f.b.extractLsb' 3 3) ++ f.b.extractLsb' 0 3) := by
        rw [BitVec.or_append, BitVec.or_append, BitVec.zero_or, BitVec.zero_or]

/-- The pieces of a regular word: the second operand falls on all of them. -/
theorem head_pack_regular (f : Fields) :
    (f.pack false).head = (f.leading ||| f.b.extractLsb' 6 10)
      ++ ((f.a ||| f.b.extractLsb' 3 3) ++ f.b.extractLsb' 0 3) := by
  show ((((f.leading ++ 0#6 : BitVec (10 + 6)) ||| ((f.a.setWidth 16 &&& 0x7) <<< 3))
    ||| f.b).setWidth 32).extractLsb' 0 16 = _
  rw [BitVec.extractLsb'_setWidth_of_le (by decide), BitVec.extractLsb'_eq_self,
    and_seven_setWidth, BitVec.or_assoc, shift_or, BitVec.or_append, BitVec.zero_or]

/-- Six bits of the second operand do not reach the leading bits. -/
theorem head_pack_of_six {f : Fields} (h : f.b.toNat < 2 ^ 6) :
    (f.pack false).head = f.leading ++ ((f.a ||| f.b.extractLsb' 3 3) ++ f.b.extractLsb' 0 3) := by
  rw [head_pack_regular, extractLsb'_eq_zero h, BitVec.or_zero]

/-- Three bits of the second operand fall on nothing. -/
theorem head_pack_of_three {f : Fields} {x : BitVec 3} (h : f.b = x.setWidth 16) :
    (f.pack false).head = f.leading ++ (f.a ++ x) := by
  rw [head_pack_regular, h, setWidth_eq_pieces, BitVec.extractLsb'_append_eq_left,
    BitVec.extractLsb'_append_eq_of_add_le (by decide), BitVec.extractLsb'_append_eq_left,
    BitVec.extractLsb'_append_eq_of_add_le (by decide), BitVec.extractLsb'_append_eq_right,
    BitVec.or_zero, BitVec.or_zero]

/-- **FIELDS OF A REGULAR WORD.**  The second operand keeps its lowest three bits; the next three
    are found in the first operand, and the others in the leading bits. -/
theorem decode_pack_regular (f : Fields) :
    (f.pack false).decode.leading = f.leading ||| f.b.extractLsb' 6 10 ∧
      (f.pack false).decode.a = f.a ||| f.b.extractLsb' 3 3 ∧
      (f.pack false).decode.b = (f.b.extractLsb' 0 3).setWidth 16 := by
  refine ⟨?_, ?_, ?_⟩
  · rw [leading_decode, head_pack_regular]
    exact BitVec.extractLsb'_append_eq_left
  · show (f.pack false).head.extractLsb' 3 3 = _
    rw [head_pack_regular, BitVec.extractLsb'_append_eq_of_add_le (by decide)]
    exact BitVec.extractLsb'_append_eq_left
  · show ((f.pack false).head.extractLsb' 0 3).setWidth 16 = _
    rw [head_pack_regular, BitVec.extractLsb'_append_eq_of_add_le (by decide)]
    congr 1
    exact BitVec.extractLsb'_append_eq_right

/-- A regular word gives all fields back if and only if the second operand has three bits. -/
theorem decode_pack_eq_iff (f : Fields) : (f.pack false).decode = f ↔ f.b.toNat < 2 ^ 3 := by
  obtain ⟨hleading, ha, hb⟩ := f.decode_pack_regular
  constructor
  · intro h
    have hlt := (f.b.extractLsb' 0 3).isLt
    rw [h] at hb
    rw [hb, BitVec.toNat_setWidth]
    omega
  · intro h
    have hlower : (f.b.extractLsb' 0 3).setWidth 16 = f.b := by
      apply BitVec.eq_of_toNat_eq
      rw [BitVec.toNat_setWidth, BitVec.extractLsb'_toNat, Nat.shiftRight_zero]
      omega
    have hsix : f.b.toNat < 2 ^ 6 := by omega
    rw [eq_iff, hleading, ha, hb, hlower, extractLsb'_eq_zero hsix, extractLsb'_eq_zero h,
      BitVec.or_zero, BitVec.or_zero]
    exact ⟨rfl, rfl, rfl⟩

/-- Regular words are told apart by their heads. -/
theorem pack_regular_inj {f g : Fields} :
    f.pack false = g.pack false ↔ (f.pack false).head = (g.pack false).head := by
  constructor
  · intro h
    rw [h]
  · intro h
    have hvalue : ∀ x : BitVec 16, (x.setWidth 32).extractLsb' 0 16 = x := by
      intro x
      rw [BitVec.extractLsb'_setWidth_of_le (by decide), BitVec.extractLsb'_eq_self]
    exact congrArg (fun x => Word.mk (x.setWidth 32) false)
      ((hvalue _).symm.trans (h.trans (hvalue _)))

/-- Regular words whose second operands have six bits are equal if and only if their leading bits
    are, and what lies behind them. -/
theorem pack_regular_eq_iff {f g : Fields} (hf : f.b.toNat < 2 ^ 6) (hg : g.b.toNat < 2 ^ 6) :
    f.pack false = g.pack false ↔ f.leading = g.leading ∧
      (f.a.setWidth 16 <<< 3) ||| f.b = (g.a.setWidth 16 <<< 3) ||| g.b := by
  rw [pack_regular_inj, head_pack_of_six hf, head_pack_of_six hg, append_inj, shift_or, shift_or,
    extractLsb'_eq_zero hf, extractLsb'_eq_zero hg, BitVec.append_right_inj]

/-- Long words are equal if and only if all their fields are. -/
theorem pack_long_inj {f g : Fields} : f.pack true = g.pack true ↔ f = g := by
  constructor
  · intro h
    rw [← decode_pack_long f, h, decode_pack_long]
  · intro h
    rw [h]

/-- **PACKING UNDOES DECODING.**  The fields of a packed word hold all of its bits. -/
theorem pack_decode (f : Fields) (long : Bool) : (f.pack long).decode.pack long = f.pack long := by
  cases long with
  | true => rw [decode_pack_long]
  | false =>
      obtain ⟨hleading, ha, hb⟩ := f.decode_pack_regular
      rw [pack_regular_inj, head_pack_of_three hb, hleading, ha, head_pack_regular]

end Fields

/-! ## Instructions -/

namespace Instruction

/-- The fields of an instruction whose operands have given codes; of the first code there is
    room for three bits. -/
def fields (i : Instruction) (a b : BitVec 16) : Fields where
  code := i.opcode.code
  high := i.high
  low := i.low
  setFlags := i.setFlags
  signed := i.signed
  a := a.setWidth 3
  b

/-- An encoded instruction is its fields, packed. -/
theorem encode_eq_ok {i : Instruction} {w : Word} :
    i.encode = .ok w ↔
      ∃ a b, i.a.code = .ok a ∧ i.b.code = .ok b ∧ w = (i.fields a b).pack i.isLong := by
  have hpack : ∀ a b, pack i.header a b i.isLong = (i.fields a b).pack i.isLong := by
    intro a b
    show pack i.header a b i.isLong = pack i.header ((a.setWidth 3).setWidth 16) b i.isLong
    rw [pack, pack, and_seven_setWidth, and_seven]
  rw [encode, bind_eq_ok]
  constructor
  · rintro ⟨a, ha, h⟩
    obtain ⟨b, hb, h⟩ := bind_eq_ok.mp h
    exact ⟨a, b, ha, hb, (pure_eq_ok.mp h).symm.trans (hpack a b)⟩
  · rintro ⟨a, b, ha, hb, rfl⟩
    exact ⟨a, ha, bind_eq_ok.mpr ⟨b, hb, pure_eq_ok.mpr (hpack a b)⟩⟩

end Instruction

end TwoPass
