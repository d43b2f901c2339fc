import TwoPass.Proofs.Machine.Fields
import TwoPass.Proofs.Machine.Legality
import TwoPass.Proofs.Text.Numbers

/-!
# The instruction stream — words one after the other can be told apart

The second operand of a regular word is laid over its lowest bits, but no accepted
instruction lets it reach the header: its code has five bits.  So the ten leading bits of an
encoded word are those of the instruction (`encode_of_validate`), the first byte of a word
shows whether it is long, and that byte is all a reader needs to cut a word off the front of
any stream (`readStream_bytes_append`).
-/

namespace TwoPass

namespace Instruction

/-- The ten leading bits of a word. -/
def leading (i : Instruction) : BitVec 10 :=
  i.opcode.code ++ BitVec.ofBool i.high ++ BitVec.ofBool i.low ++ BitVec.ofBool i.setFlags
    ++ BitVec.ofBool i.signed

/-- The half of a word that holds the opcode, with six bits behind the leading ones. -/
def headWith (i : Instruction) (x : BitVec 6) : BitVec 16 := i.leading ++ x

end Instruction

namespace Word

/-- What the fields of a word have in common with its instruction. -/
structure Shows (w : Word) (i : Instruction) : Prop where
  code : (w.decode.code.toNat : Int) = i.opcode.number
  high : w.decode.high = i.high
  low : w.decode.low = i.low
  setFlags : w.decode.setFlags = i.setFlags
  signed : w.decode.signed = i.signed

/-- A word with the bits of an instruction in front shows it. -/
theorem shows_of_head {w : Word} {i : Instruction} {x : BitVec 6} (hdef : i.opcode.isDefined = true)
    (h : w.head = i.headWith x) : w.Shows i := by
  have hleading : w.decode.leading = (i.fields 0 0).leading := by
    rw [Fields.leading_decode, h]
    exact BitVec.extractLsb'_append_eq_left
  obtain ⟨hcode, hhigh, hlow, hsetFlags, hsigned⟩ := Fields.leading_inj.mp hleading
  refine ⟨?_, hhigh, hlow, hsetFlags, hsigned⟩
  rw [hcode]
  exact Opcode.toNat_code hdef

end Word

namespace Instruction

/-- The word of an accepted instruction: its head starts with the bits of the instruction,
    it is long behind `movi` only, and a regular one has nothing in its upper half. -/
theorem encode_of_validate {i : Instruction} (h : i.validate = .ok ()) :
    ∃ (w : Word) (x : BitVec 6), i.encode = .ok w ∧ w.head = i.headWith x ∧
      w.long = i.isLong ∧ (w.long = true ↔ i.opcode = .movi) ∧
      (w.long = false → w.value.toNat < 2 ^ 16) := by
  obtain ⟨-, ⟨a, ha⟩, ⟨hop, hlong, hb⟩ | ⟨hop, hlong, b, hb⟩⟩ := operands_of_validate h
  · refine ⟨(i.fields (a.setWidth 16) i.b.value).pack true, _, ?_, Fields.head_pack_long _, ?_, ?_,
      nofun⟩
    · rw [encode_eq_ok, hlong]
      exact ⟨_, _, ha, hb, rfl⟩
    · rw [hlong]
      rfl
    · exact ⟨fun _ => hop, fun _ => rfl⟩
  · -- five bits of the second operand stay below the header
    have hfive : (b.setWidth 16).toNat < 2 ^ 6 := by
      have hlt := b.isLt
      rw [BitVec.toNat_setWidth]
      omega
    refine ⟨(i.fields (a.setWidth 16) (b.setWidth 16)).pack false, _, ?_,
      Fields.head_pack_of_six hfive, ?_, ?_, ?_⟩
    · rw [encode_eq_ok, hlong]
      exact ⟨_, _, ha, hb, rfl⟩
    · rw [hlong]
      rfl
    · exact ⟨nofun, fun he => absurd he hop⟩
    · intro _
      show (BitVec.setWidth 32 _).toNat < 2 ^ 16
      rw [BitVec.toNat_setWidth]
      exact Nat.lt_of_le_of_lt (Nat.mod_le _ _) (BitVec.isLt _)

end Instruction

namespace Word

/-- The number of bytes of the word that starts with a byte: four if the upper six bits of
    the byte are the code of `movi`, and two otherwise. -/
def sizeFrom (first : UInt8) : Nat :=
  if (first >>> 2).toNat = Opcode.movi.code.toNat then 4 else 2

/-- The word that two or four bytes hold. -/
def ofBytes (s : Bytes) : Word := ⟨BitVec.ofNat 32 s.ofBigEndian, s.length == 4⟩

theorem sizeFrom_pos (first : UInt8) : 0 < sizeFrom first := by
  rw [sizeFrom]
  split <;> decide

/-- A stream of bytes cut into words, each as long as its first byte says; `none` if it ends
    inside a word. -/
def readStream (s : Bytes) : Option (List Word) :=
  match s with
  | [] => some []
  | first :: rest =>
    if sizeFrom first ≤ rest.length + 1 then
      (readStream ((first :: rest).drop (sizeFrom first))).map
        (ofBytes ((first :: rest).take (sizeFrom first)) :: ·)
    else none
termination_by s.length
decreasing_by
  have := sizeFrom_pos first
  rw [List.length_drop, List.length_cons]
  omega

/-- A regular word with nothing in its upper half, or a long word. -/
def Fitting (w : Word) : Prop := w.long = false → w.value.toNat < 2 ^ 16

theorem length_bytes (w : Word) : w.bytes.length = w.size := Bytes.length_bigEndian _ _

/-- The bytes of a word hold the word. -/
theorem ofBytes_bytes {w : Word} (h : w.Fitting) : ofBytes w.bytes = w := by
  have hvalue : w.bytes.ofBigEndian = w.value.toNat := by
    rw [bytes, Bytes.ofBigEndian_bigEndian, size]
    cases hl : w.long with
    | true => exact Nat.mod_eq_of_lt w.value.isLt
    | false => exact Nat.mod_eq_of_lt (h hl)
  have hlong : (w.bytes.length == 4) = w.long := by
    rw [length_bytes, size]
    cases w.long with
    | true => rfl
    | false => rfl
  rw [ofBytes, hvalue, hlong, BitVec.ofNat_toNat, BitVec.setWidth_eq]

/-- The first byte of a word is the upper half of its head. -/
theorem bytes_eq_cons {w : Word} (h : w.Fitting) :
    ∃ first rest, w.bytes = first :: rest ∧ first.toNat = w.head.toNat / 256 := by
  have hlt := w.value.isLt
  rw [bytes, size, head]
  cases hl : w.long with
  | true =>
      refine ⟨_, _, Bytes.bigEndian_succ 3 _, ?_⟩
      show w.value.toNat / 256 ^ 3 % 256 = _
      rw [if_pos rfl, BitVec.extractLsb'_toNat, Nat.shiftRight_eq_div_pow]
      omega
  | false =>
      refine ⟨_, _, Bytes.bigEndian_succ 1 _, ?_⟩
      have hfit := h hl
      show w.value.toNat / 256 ^ 1 % 256 = _
      rw [if_neg Bool.false_ne_true, BitVec.extractLsb'_toNat, Nat.shiftRight_eq_div_pow]
      omega

/-- A word is cut off the front of a stream if its first byte tells its size. -/
theorem readStream_bytes_append {w : Word} (h : w.Fitting)
    (hcode : w.head.toNat / 1024 = Opcode.movi.code.toNat ↔ w.long = true) (s : Bytes) :
    readStream (w.bytes ++ s) = (readStream s).map (w :: ·) := by
  obtain ⟨first, rest, hcons, hfirst⟩ := bytes_eq_cons h
  -- the opcode is in the top six bits of the first byte, and tells the size
  have hsize : sizeFrom first = w.size := by
    have htop : (first >>> 2).toNat = w.head.toNat / 1024 := by
      rw [UInt8.toNat_shiftRight, hfirst, Nat.shiftRight_eq_div_pow]
      exact Nat.div_div_eq_div_mul _ _ _
    rw [sizeFrom, htop, size]
    cases hl : w.long with
    | true => rw [if_pos (hcode.mpr hl), if_pos rfl]
    | false =>
        rw [if_neg (fun he => Bool.false_ne_true (hl ▸ hcode.mp he)), if_neg Bool.false_ne_true]
  have hlen : w.size ≤ (rest ++ s).length + 1 := by
    have := length_bytes w
    rw [hcons, List.length_cons] at this
    rw [List.length_append]
    omega
  have hbytes : first :: (rest ++ s) = w.bytes ++ s := by rw [hcons, List.cons_append]
  rw [← hbytes, readStream, hsize, if_pos hlen, hbytes, ← length_bytes w, List.drop_left,
    List.take_left, ofBytes_bytes h]

/-- An accepted instruction has a word that shows it, and that a reader cuts off the front of
    any stream. -/
theorem exists_of_validate {i : Instruction} (h : i.validate = .ok ()) :
    ∃ w : Word, i.encode = .ok w ∧ w.Shows i ∧
      ∀ s, readStream (w.bytes ++ s) = (readStream s).map (w :: ·) := by
  obtain ⟨w, x, henc, hhead, -, hmovi, hfit⟩ := Instruction.encode_of_validate h
  have hshows := shows_of_head (Instruction.operands_of_validate h).1 hhead
  refine ⟨w, henc, hshows, readStream_bytes_append hfit ?_⟩
  -- the opcode is the upper six bits of the head, and so of the first byte
  have htop : w.decode.code.toNat = w.head.toNat / 1024 := by
    have hlt := w.head.isLt
    show (w.head.extractLsb' 10 6).toNat = w.head.toNat / 1024
    rw [BitVec.extractLsb'_toNat, Nat.shiftRight_eq_div_pow]
    omega
  rw [hmovi, Opcode.eq_movi_iff, ← hshows.code, htop, Int.natCast_inj]

end Word

/-- **THE STREAM DELIMITS ITSELF.**  Accepted instructions all have a word.  Their bytes one
    after the other are cut into exactly these words by the rule that a word is as long as
    its first byte says, and each word shows the opcode and the bits of its instruction. -/
theorem readStream_encode (is : List Instruction) (h : ∀ i ∈ is, i.validate = .ok ()) :
    ∃ ws : List Word, is.mapM Instruction.encode = .ok ws ∧
      Word.readStream (ws.flatMap Word.bytes) = some ws ∧
      List.Forall₂ (fun i w => w.Shows i) is ws := by
  induction is with
  | nil => exact ⟨[], rfl, by rw [List.flatMap_nil, Word.readStream], List.Forall₂.nil⟩
  | cons i is ih =>
      obtain ⟨ws, henc, hread, hshows⟩ := ih (fun j hj => h j (List.mem_cons_of_mem _ hj))
      obtain ⟨w, hw, hshow, hcut⟩ := Word.exists_of_validate (h i List.mem_cons_self)
      refine ⟨w :: ws, ?_, ?_, List.Forall₂.cons hshow hshows⟩
      · exact mapM_eq_ok.mpr (List.Forall₂.cons hw (mapM_eq_ok.mp henc))
      · rw [List.flatMap_cons, hcut, hread]
        rfl

/-- Words of both sizes in a row, with bits that no source line sets and the largest values
    that their operands take. -/
def mixedInstructions : List Instruction :=
  [⟨.movi, false, true, true, true, .ofRegister ⟨16⟩, .large 0xffff⟩,
    .derive ⟨17⟩ (.ofRegister ⟨3⟩) (.short 31),
    .derive ⟨1⟩ (.ofRegister ⟨1⟩) (.ofRegister ⟨4⟩)]

/-- Short and long words, one behind the other. -/
theorem readStream_encode_mixed :
    (∀ i ∈ mixedInstructions, i.validate = .ok ()) ∧
    ∃ ws : List Word, mixedInstructions.mapM Instruction.encode = .ok ws ∧
      Word.readStream (ws.flatMap Word.bytes) = some ws ∧
      List.Forall₂ (fun i w => w.Shows i) mixedInstructions ws := by
  have hlegal : ∀ i ∈ mixedInstructions, i.validate = .ok () := by decide +kernel
  exact ⟨hlegal, readStream_encode mixedInstructions hlegal⟩

end TwoPass
