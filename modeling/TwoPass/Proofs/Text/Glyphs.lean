import TwoPass.Text.Utf8

/-!
# Glyphs — where text may be cut without changing how it is read

Text is read from the right, and a leading byte takes up continuation bytes behind it.  So a
text may be cut wherever the right part does not start with a continuation byte: both parts
are then read as they are read together (`glyphs_append`).  An ASCII byte is always a glyph
of its own and never takes anything up, and every end of a reading is the reading of its own
bytes (`glyphs_ofGlyphs_of_suffix`).  These three facts carry everything that is said about
words, trimming and references.
-/

namespace TwoPass

/-- A property of bytes can be checked on the 256 of them. -/
theorem forall_byte {P : UInt8 → Prop} (h : ∀ n < 256, P n.toUInt8) (b : UInt8) : P b := by
  have hb := h b.toNat b.toNat_lt
  rwa [show b.toNat.toUInt8 = b from UInt8.ofNat_toNat] at hb

/-- A byte that can only continue an encoding. -/
def isContinuation (b : UInt8) : Bool := 0x80 ≤ b && b < 0xC0

/-- An ASCII byte. -/
def isAscii (b : UInt8) : Bool := b < 0x80

/-- ASCII bytes continue nothing. -/
theorem isContinuation_of_isAscii (b : UInt8) : isAscii b = true → isContinuation b = false := by
  revert b
  exact forall_byte (by decide +kernel)

/-- A text in front of which any other text may stand without taking up its first byte. -/
def StartsGlyph (s : Bytes) : Prop := ∀ b ∈ s.head?, isContinuation b = false

namespace Glyph

/-- The glyph of an ASCII byte. -/
def ascii (b : UInt8) : Glyph := scalar b.toNat [b]

@[simp] theorem bytes_ascii (b : UInt8) : (ascii b).bytes = [b] := rfl

@[simp] theorem code?_ascii (b : UInt8) : (ascii b).code? = some b.toNat := rfl

@[simp] theorem continuation?_ascii (b : UInt8) : (ascii b).continuation? = none := rfl

theorem continuation?_stray (b : UInt8) :
    (stray b).continuation? = if isContinuation b then some b else none := rfl

/-- The continuation bytes that a leading byte finds behind it. -/
def tailOf (lead : Lead) (gs : List Glyph) : Bytes := (gs.take lead.tail).filterMap continuation?

/-- The code point that a leading byte and the bytes behind it stand for. -/
def codeOf (lead : Lead) (tail : Bytes) : Nat :=
  tail.foldl (fun n c => n * 64 + (c.toNat - 0x80)) lead.bits

/-- Whether a leading byte and the bytes behind it are an encoding. -/
def accepts (lead : Lead) (tail : Bytes) : Bool :=
  tail.length == lead.tail && lead.least ≤ codeOf lead tail && isScalarValue (codeOf lead tail)

/-- A byte that starts nothing stands alone. -/
theorem push_of_none {b : UInt8} (h : lead? b = none) (gs : List Glyph) :
    push b gs = stray b :: gs := by
  rw [push, h]

/-- A byte that starts a glyph takes up what is behind it, if that is well formed. -/
theorem push_of_some {b : UInt8} {lead : Lead} (h : lead? b = some lead) (gs : List Glyph) :
    push b gs =
      if accepts lead (tailOf lead gs) then
        scalar (codeOf lead (tailOf lead gs)) (b :: tailOf lead gs) :: gs.drop lead.tail
      else stray b :: gs := by
  rw [push, h]
  rfl

/-- A first byte says how many bytes follow. -/
theorem length_of_accepts {lead : Lead} {tail : Bytes} (h : accepts lead tail = true) :
    tail.length = lead.tail := by
  rw [accepts, Bool.and_eq_true, Bool.and_eq_true] at h
  exact eq_of_beq h.1.1

/-- An ASCII byte is a glyph of its own, whatever stands behind it. -/
theorem push_ascii {b : UInt8} (h : isAscii b = true) (gs : List Glyph) :
    push b gs = ascii b :: gs := by
  have hn : b.toNat < 0x80 := by simpa [isAscii, UInt8.lt_iff_toNat_lt] using h
  have hlead : lead? b = some ⟨0, b.toNat, 0⟩ := by
    rw [lead?]
    exact if_pos hn
  have hacc : accepts ⟨0, b.toNat, 0⟩ (tailOf ⟨0, b.toNat, 0⟩ gs) = true := by
    have : isScalarValue b.toNat = true := by
      rw [isScalarValue, Bool.or_eq_true]
      exact Or.inl (decide_eq_true (by omega))
    simpa [accepts, codeOf, tailOf] using this
  rw [push_of_some hlead, if_pos hacc]
  rfl

/-- Every glyph starts with the byte that was pushed, and is stray only if it is that byte. -/
theorem push_cons (b : UInt8) (gs : List Glyph) :
    push b gs = stray b :: gs ∨
      ∃ lead, lead? b = some lead ∧ accepts lead (tailOf lead gs) = true ∧
        push b gs =
          scalar (codeOf lead (tailOf lead gs)) (b :: tailOf lead gs) :: gs.drop lead.tail := by
  cases h : lead? b with
  | none => exact Or.inl (push_of_none h gs)
  | some lead =>
      rw [push_of_some h]
      by_cases hacc : accepts lead (tailOf lead gs) = true
      · rw [if_pos hacc]
        exact Or.inr ⟨lead, rfl, hacc, rfl⟩
      · rw [if_neg hacc]
        exact Or.inl rfl

/-- Glyphs that are all stray continuation bytes are those bytes. -/
theorem flatMap_bytes_of_filterMap {gs : List Glyph}
    (h : gs.length ≤ (gs.filterMap continuation?).length) :
    gs.flatMap bytes = gs.filterMap continuation? := by
  induction gs with
  | nil => rfl
  | cons g gs ih =>
      have hle := List.length_filterMap_le continuation? gs
      cases g with
      | scalar code bs =>
          rw [List.filterMap_cons_none rfl, List.length_cons] at h
          omega
      | stray b =>
          by_cases hb : isContinuation b = true
          · have hc : (stray b).continuation? = some b := by rw [continuation?_stray, if_pos hb]
            rw [List.filterMap_cons_some hc, List.length_cons, List.length_cons] at h
            rw [List.filterMap_cons_some hc, List.flatMap_cons, ih (by omega)]
            rfl
          · have hc : (stray b).continuation? = none := by rw [continuation?_stray, if_neg hb]
            rw [List.filterMap_cons_none hc, List.length_cons] at h
            omega

/-- A glyph as reading makes it: a stray byte, or a leading byte with what it takes up. -/
def IsRead : Glyph → Prop
  | stray _ => True
  | scalar code bs =>
      ∃ b lead tail, bs = b :: tail ∧ lead? b = some lead ∧ accepts lead tail = true ∧
        code = codeOf lead tail

/-- No leading byte is a continuation byte. -/
theorem isContinuation_of_lead {b : UInt8} {lead : Lead} (h : lead? b = some lead) :
    isContinuation b = false := by
  cases hc : isContinuation b with
  | false => rfl
  | true =>
      have hb : 0x80 ≤ b.toNat ∧ b.toNat < 0xC0 := by
        simpa [isContinuation, UInt8.le_iff_toNat_le, UInt8.lt_iff_toNat_lt] using hc
      rw [lead?, if_neg (by omega), if_pos hb.2] at h
      exact nomatch h

/-- Only a single byte has a least code point that is ASCII. -/
theorem lt_of_lead_least {b : UInt8} {lead : Lead} (h : lead? b = some lead)
    (hleast : lead.least < 0x80) : b.toNat < 0x80 := by
  rw [lead?] at h
  split at h
  · assumption
  · split at h
    · exact nomatch h
    · repeat' split at h
      all_goals cases h
      all_goals simp only at hleast; omega

/-- A glyph that was read with an ASCII code point is the glyph of that byte. -/
theorem IsRead.eq_ascii {g : Glyph} (h : g.IsRead) {code : Nat} (hc : g.code? = some code)
    (hlt : code < 0x80) : ∃ b, isAscii b = true ∧ b.toNat = code ∧ g = ascii b := by
  cases g with
  | stray b => exact nomatch hc
  | scalar n bs =>
      obtain ⟨b, lead, tail, rfl, hlead, hacc, rfl⟩ := h
      rw [code?, Option.some.injEq] at hc
      have hlen := length_of_accepts hacc
      rw [accepts, Bool.and_eq_true, Bool.and_eq_true, decide_eq_true_iff] at hacc
      have hleast : lead.least < 0x80 := Nat.lt_of_le_of_lt (hc ▸ hacc.1.2) hlt
      have hlt' := lt_of_lead_least hlead hleast
      rw [lead?, if_pos hlt', Option.some.injEq] at hlead
      subst hlead
      obtain rfl : tail = [] := List.eq_nil_of_length_eq_zero hlen
      exact ⟨b, by simpa [isAscii, UInt8.lt_iff_toNat_lt] using hlt', hc, rfl⟩

/-- What a leading byte takes up are the bytes of the glyphs it takes up. -/
theorem flatMap_bytes_take {lead : Lead} {gs : List Glyph}
    (h : (tailOf lead gs).length = lead.tail) :
    (gs.take lead.tail).flatMap bytes = tailOf lead gs := by
  refine flatMap_bytes_of_filterMap ?_
  rw [show (gs.take lead.tail).filterMap continuation? = tailOf lead gs from rfl, h]
  exact List.length_take_le _ _

end Glyph

namespace Bytes

open Glyph

@[simp] theorem glyphs_nil : glyphs [] = [] := rfl

theorem glyphs_cons (b : UInt8) (s : Bytes) : glyphs (b :: s) = Glyph.push b (glyphs s) := rfl

@[simp] theorem ofGlyphs_nil : ofGlyphs [] = [] := rfl

@[simp] theorem ofGlyphs_cons (g : Glyph) (gs : List Glyph) :
    ofGlyphs (g :: gs) = g.bytes ++ ofGlyphs gs := rfl

@[simp] theorem ofGlyphs_append (gs hs : List Glyph) :
    ofGlyphs (gs ++ hs) = ofGlyphs gs ++ ofGlyphs hs := List.flatMap_append

/-- Reading loses nothing. -/
@[simp] theorem ofGlyphs_glyphs (s : Bytes) : ofGlyphs (glyphs s) = s := by
  induction s with
  | nil => rfl
  | cons b s ih =>
      rw [glyphs_cons]
      rcases push_cons b (glyphs s) with h | ⟨lead, -, hacc, h⟩
      · rw [h, ofGlyphs_cons, ih]
        rfl
      · rw [h, ofGlyphs_cons]
        show b :: (tailOf lead (glyphs s) ++ ofGlyphs ((glyphs s).drop lead.tail)) = b :: s
        rw [← flatMap_bytes_take (length_of_accepts hacc)]
        show b :: (ofGlyphs ((glyphs s).take lead.tail)
          ++ ofGlyphs ((glyphs s).drop lead.tail)) = b :: s
        rw [← ofGlyphs_append, List.take_append_drop, ih]

/-- All glyphs of a text were read. -/
theorem isRead_of_mem_glyphs {s : Bytes} {g : Glyph} (h : g ∈ glyphs s) : g.IsRead := by
  induction s with
  | nil => exact nomatch h
  | cons b s ih =>
      rw [glyphs_cons] at h
      rcases push_cons b (glyphs s) with hp | ⟨lead, hlead, hacc, hp⟩
      · rw [hp] at h
        rcases List.mem_cons.mp h with rfl | h
        · exact trivial
        · exact ih h
      · rw [hp] at h
        rcases List.mem_cons.mp h with rfl | h
        · exact ⟨b, lead, _, rfl, hlead, hacc, rfl⟩
        · exact ih (List.mem_of_mem_drop h)

/-- An ASCII byte is a glyph, whatever follows. -/
theorem glyphs_cons_ascii {b : UInt8} (h : isAscii b = true) (s : Bytes) :
    glyphs (b :: s) = ascii b :: glyphs s := by
  rw [glyphs_cons, push_ascii h]

/-- ASCII text is read byte by byte, whatever stands behind it. -/
theorem glyphs_ascii_append {a : Bytes} (h : ∀ b ∈ a, isAscii b = true) (s : Bytes) :
    glyphs (a ++ s) = a.map ascii ++ glyphs s := by
  induction a with
  | nil => rfl
  | cons b a ih =>
      rw [List.cons_append, glyphs_cons_ascii (h b List.mem_cons_self),
        ih (fun c hc => h c (List.mem_cons_of_mem _ hc))]
      rfl

/-- So every byte of an ASCII text is a glyph. -/
theorem glyphs_ascii {a : Bytes} (h : ∀ b ∈ a, isAscii b = true) : glyphs a = a.map ascii := by
  simpa using glyphs_ascii_append h []

@[simp] theorem ofGlyphs_map_ascii (a : Bytes) : ofGlyphs (a.map ascii) = a := by
  induction a with
  | nil => rfl
  | cons b a ih => rw [List.map_cons, ofGlyphs_cons, ih, bytes_ascii, List.singleton_append]

/-- ASCII text is never taken up by what stands in front of it. -/
theorem startsGlyph_of_ascii {a : Bytes} (hne : a ≠ []) (h : ∀ b ∈ a, isAscii b = true)
    (s : Bytes) : StartsGlyph (a ++ s) := by
  cases a with
  | nil => exact absurd rfl hne
  | cons b a =>
      intro c hc
      rw [← Option.some.inj hc]
      exact isContinuation_of_isAscii b (h b List.mem_cons_self)

/-- A byte that starts a glyph is nothing that a leading byte could take up. -/
theorem continuation?_head_glyphs {t : Bytes} (h : StartsGlyph t) :
    ∀ g ∈ (glyphs t).head?, g.continuation? = none := by
  intro g hg
  cases t with
  | nil => exact nomatch hg
  | cons b t =>
      rw [glyphs_cons] at hg
      rcases push_cons b (glyphs t) with hp | ⟨lead, -, -, hp⟩
      · rw [hp, List.head?_cons, Option.mem_some_iff] at hg
        rw [← hg, continuation?_stray, if_neg]
        rw [h b rfl]
        exact Bool.false_ne_true
      · rw [hp, List.head?_cons, Option.mem_some_iff] at hg
        rw [← hg]
        rfl

/-- Glyphs behind a text do not change what its leading bytes take up, unless they start
    with a continuation byte. -/
theorem push_append (b : UInt8) (gs : List Glyph) {hs : List Glyph}
    (h : ∀ g ∈ hs.head?, g.continuation? = none) :
    Glyph.push b (gs ++ hs) = Glyph.push b gs ++ hs := by
  cases hl : lead? b with
  | none => rw [push_of_none hl, push_of_none hl, List.cons_append]
  | some lead =>
      rw [push_of_some hl, push_of_some hl]
      by_cases hlen : lead.tail ≤ gs.length
      · have htail : tailOf lead (gs ++ hs) = tailOf lead gs := by
          rw [tailOf, List.take_append_of_le_length hlen, tailOf]
        rw [htail, List.drop_append_of_le_length hlen]
        by_cases hacc : accepts lead (tailOf lead gs) = true
        · rw [if_pos hacc, if_pos hacc, List.cons_append]
        · rw [if_neg hacc, if_neg hacc, List.cons_append]
      · -- too few glyphs are left in the text, and the next one behind it does not help
        have hshort : accepts lead (tailOf lead gs) ≠ true := by
          intro hacc
          have hle : (tailOf lead gs).length ≤ gs.length := by
            have h0 := List.length_filterMap_le continuation? (gs.take lead.tail)
            rw [List.length_take] at h0
            rw [tailOf]
            omega
          have := length_of_accepts hacc
          omega
        have hlong : accepts lead (tailOf lead (gs ++ hs)) ≠ true := by
          intro hacc
          have heq := length_of_accepts hacc
          rw [tailOf, List.take_append, List.filterMap_append, List.length_append] at heq
          have h1 := List.length_filterMap_le continuation? (gs.take lead.tail)
          rw [List.length_take] at h1
          cases hs with
          | nil =>
              rw [List.take_nil, List.filterMap_nil, List.length_nil] at heq
              omega
          | cons g hs =>
              obtain ⟨k, hk⟩ : ∃ k, lead.tail - gs.length = k + 1 :=
                ⟨lead.tail - gs.length - 1, by omega⟩
              rw [hk, List.take_succ_cons,
                List.filterMap_cons_none (h g (by rw [List.head?_cons]; rfl))] at heq
              have h2 := List.length_filterMap_le continuation? (hs.take k)
              rw [List.length_take] at h2
              omega
        rw [if_neg hshort, if_neg hlong, List.cons_append]

/-- **CUTTING.**  Text may be cut in front of anything but a continuation byte. -/
theorem glyphs_append (s : Bytes) {t : Bytes} (h : StartsGlyph t) :
    glyphs (s ++ t) = glyphs s ++ glyphs t := by
  induction s with
  | nil => rfl
  | cons b s ih =>
      rw [List.cons_append, glyphs_cons, ih, push_append b _ (continuation?_head_glyphs h)]
      rfl

/-- Every end of a reading is the reading of its own bytes. -/
theorem glyphs_ofGlyphs_of_suffix {s : Bytes} {gs : List Glyph} (h : gs <:+ glyphs s) :
    glyphs (ofGlyphs gs) = gs := by
  induction s with
  | nil =>
      rw [List.suffix_nil.mp h]
      rfl
  | cons b s ih =>
      -- an end is the whole reading, or an end of what stood behind the pushed byte
      rw [glyphs_cons] at h
      rcases push_cons b (glyphs s) with hp | ⟨lead, -, -, hp⟩
      · rw [hp, List.suffix_cons_iff] at h
        rcases h with h | h
        · rw [h, ← hp, ← glyphs_cons, ofGlyphs_glyphs]
        · exact ih h
      · rw [hp, List.suffix_cons_iff] at h
        rcases h with h | h
        · rw [h, ← hp, ← glyphs_cons, ofGlyphs_glyphs]
        · exact ih (h.trans (List.drop_suffix _ _))

/-- A glyph with a code point starts with a byte that nothing in front of it takes up. -/
theorem startsGlyph_ofGlyphs {s : Bytes} {gs : List Glyph} (h : gs <:+ glyphs s)
    (hcode : ∀ g ∈ gs.head?, g.code?.isSome = true) : StartsGlyph (ofGlyphs gs) := by
  cases gs with
  | nil => exact nofun
  | cons g gs =>
      have hread := isRead_of_mem_glyphs (h.subset List.mem_cons_self)
      cases g with
      | stray b => exact absurd (hcode _ rfl) Bool.false_ne_true
      | scalar code bs =>
          obtain ⟨b, lead, tail, rfl, hlead, -, -⟩ := hread
          intro c hc
          rw [← Option.some.inj hc]
          exact isContinuation_of_lead hlead

/-- A stretch of a reading is the reading of its own bytes if a code point, or nothing,
    stands behind it. -/
theorem glyphs_ofGlyphs_of_append {s : Bytes} {gs hs : List Glyph} (h : gs ++ hs <:+ glyphs s)
    (hcode : ∀ g ∈ hs.head?, g.code?.isSome = true) : glyphs (ofGlyphs gs) = gs := by
  have hsuf : hs <:+ glyphs s := (List.suffix_append gs hs).trans h
  have hcut := glyphs_append (ofGlyphs gs) (startsGlyph_ofGlyphs hsuf hcode)
  rw [← ofGlyphs_append, glyphs_ofGlyphs_of_suffix h, glyphs_ofGlyphs_of_suffix hsuf] at hcut
  exact (List.append_cancel_right hcut).symm

end Bytes

end TwoPass
