import TwoPass.Proofs.Text.Words

/-!
# Blanks — white space around a text

White space is made of whole encodings.  A whole encoding takes up its own continuation bytes and
no others (`glyphs_encoding_append`), so code points may stand in front of anything, stray
continuation bytes included, and both are read as they are read alone (`glyphs_append_of_codes`).
Blanks start with no continuation byte either, so they may also stand behind anything.  Hence
trimming sees the same text with and without them (`trim_between`).
-/

namespace TwoPass

namespace Glyph

/-- A continuation byte starts nothing. -/
theorem lead?_of_isContinuation {b : UInt8} (h : isContinuation b = true) : lead? b = none := by
  cases hlead : lead? b with
  | none => rfl
  | some lead =>
      rw [isContinuation_of_lead hlead] at h
      exact absurd h Bool.false_ne_true

/-- Behind a first byte only continuation bytes are taken up. -/
theorem isContinuation_of_mem_tailOf {lead : Lead} {gs : List Glyph} {b : UInt8}
    (h : b ∈ tailOf lead gs) : isContinuation b = true := by
  obtain ⟨g, -, hg⟩ := List.mem_filterMap.mp h
  cases g with
  | scalar code bytes => cases hg
  | stray byte =>
      rw [continuation?_stray] at hg
      split at hg
      · rename_i hcontinuation
        cases hg
        exact hcontinuation
      · cases hg

/-- A leading byte takes up the continuation bytes behind it. -/
theorem tailOf_map_stray {lead : Lead} {tail : Bytes} (hlength : tail.length = lead.tail)
    (h : ∀ b ∈ tail, isContinuation b = true) (gs : List Glyph) :
    tailOf lead (tail.map stray ++ gs) = tail := by
  have hstray : ∀ b ∈ tail, (stray b).continuation? = some b := by
    intro b hb
    rw [continuation?_stray, if_pos (h b hb)]
  rw [tailOf, List.take_append_of_le_length (by simp [hlength]),
    List.take_of_length_le (by simp [hlength]), List.filterMap_map]
  exact (List.filterMap_congr hstray).trans (List.filterMap_some)

end Glyph

namespace Bytes

open Glyph

/-! ## Whole encodings -/

/-- Continuation bytes that nothing stands in front of are stray. -/
theorem glyphs_continuations_append {tail : Bytes} (h : ∀ b ∈ tail, isContinuation b = true)
    (s : Bytes) : glyphs (tail ++ s) = tail.map stray ++ glyphs s := by
  induction tail with
  | nil => rfl
  | cons b tail ih =>
      rw [List.cons_append, glyphs_cons, push_of_none (lead?_of_isContinuation (h b (by simp))),
        ih fun b' hb' => h b' (List.mem_cons_of_mem _ hb')]
      rfl

/-- A whole encoding is one glyph, whatever stands behind it. -/
theorem glyphs_encoding_append {b : UInt8} {lead : Lead} {tail : Bytes} (hlead : lead? b = some lead)
    (hacc : accepts lead tail = true) (h : ∀ c ∈ tail, isContinuation c = true) (s : Bytes) :
    glyphs (b :: tail ++ s) = scalar (codeOf lead tail) (b :: tail) :: glyphs s := by
  have hlength := length_of_accepts hacc
  rw [List.cons_append, glyphs_cons, glyphs_continuations_append h, push_of_some hlead,
    tailOf_map_stray hlength h, if_pos hacc, List.drop_left' (by simp [hlength])]

/-- A code point that was read is a whole encoding. -/
theorem exists_encoding {s : Bytes} {g : Glyph} (h : g ∈ glyphs s) (hcode : g.code?.isSome = true) :
    ∃ b lead tail, g = scalar (codeOf lead tail) (b :: tail) ∧ lead? b = some lead ∧
      accepts lead tail = true ∧ ∀ c ∈ tail, isContinuation c = true := by
  induction s with
  | nil => cases h
  | cons b s ih =>
      rw [glyphs_cons] at h
      rcases push_cons b (glyphs s) with hpush | ⟨lead, hlead, hacc, hpush⟩
      · rw [hpush] at h
        rcases List.mem_cons.mp h with rfl | h
        · cases hcode
        · exact ih h
      · rw [hpush] at h
        rcases List.mem_cons.mp h with rfl | h
        · exact ⟨b, lead, _, rfl, hlead, hacc, fun c hc => isContinuation_of_mem_tailOf hc⟩
        · exact ih (List.mem_of_mem_drop h)

/-- **CUTTING BEHIND WHOLE ENCODINGS.**  Code points are read by themselves, whatever stands
    behind them. -/
theorem glyphs_append_of_codes {w : Bytes} (h : ∀ g ∈ glyphs w, g.code?.isSome = true)
    (s : Bytes) : glyphs (w ++ s) = glyphs w ++ glyphs s := by
  -- the induction is on the reading, whose every end is the reading of its own bytes
  generalize hgs : glyphs w = gs at h
  induction gs generalizing w with
  | nil =>
      rw [← ofGlyphs_glyphs w, hgs]
      rfl
  | cons g gs ih =>
      have hw : w = g.bytes ++ ofGlyphs gs := by rw [← ofGlyphs_cons, ← hgs, ofGlyphs_glyphs]
      have hrest : glyphs (ofGlyphs gs) = gs :=
        glyphs_ofGlyphs_of_suffix (hgs ▸ List.suffix_cons g gs)
      obtain ⟨b, lead, tail, rfl, hlead, hacc, htail⟩ :=
        exists_encoding (hgs ▸ List.mem_cons_self) (h g List.mem_cons_self)
      rw [hw, List.append_assoc]
      show glyphs (b :: tail ++ (ofGlyphs gs ++ s)) = _
      rw [glyphs_encoding_append hlead hacc htail,
        ih hrest fun g' hg' => h g' (List.mem_cons_of_mem _ hg')]
      rfl

/-! ## White space -/

/-- A text of white space only. -/
def IsBlank (w : Bytes) : Prop := ∀ g ∈ glyphs w, g.isBlank = true

instance (w : Bytes) : Decidable (IsBlank w) :=
  inferInstanceAs (Decidable (∀ g ∈ glyphs w, g.isBlank = true))

theorem IsBlank.codes {w : Bytes} (h : IsBlank w) : ∀ g ∈ glyphs w, g.code?.isSome = true :=
  fun g hg => isSome_code?_of_isBlank (h g hg)

/-- White space starts with no continuation byte. -/
theorem IsBlank.startsGlyph {w : Bytes} (h : IsBlank w) : StartsGlyph w := by
  have hstarts := startsGlyph_ofGlyphs (List.suffix_refl (glyphs w)) fun g hg =>
    h.codes g (List.mem_of_mem_head? hg)
  rwa [ofGlyphs_glyphs] at hstarts

/-- White space in front of a text adds nothing to its words. -/
theorem IsBlank.words_append {w : Bytes} (h : IsBlank w) (s : Bytes) : words (w ++ s) = words s := by
  rw [words, wordsBy_eq, glyphs_append_of_codes h.codes, glyphWords_separators h]
  rfl

/-- A text behind white space starts with a blank. -/
theorem IsBlank.head?_append {w : Bytes} (h : IsBlank w) (hne : w ≠ []) (s : Bytes) :
    ∀ g ∈ (glyphs (w ++ s)).head?, g.isBlank = true := by
  intro g hg
  rw [glyphs_append_of_codes h.codes] at hg
  cases hw : glyphs w with
  | nil =>
      rw [← ofGlyphs_glyphs w, hw] at hne
      exact absurd rfl hne
  | cons g' gs =>
      rw [hw] at hg
      cases hg
      exact h g (hw ▸ List.mem_cons_self)

/-- Blanks in front do not matter. -/
theorem trimGlyphs_blank_append {front : List Glyph} (h : ∀ g ∈ front, g.isBlank = true)
    (gs : List Glyph) : trimGlyphs (front ++ gs) = trimGlyphs gs := by
  rw [trimGlyphs, List.dropWhile_append_of_pos h]
  rfl

/-- Blanks behind do not matter. -/
theorem trimGlyphs_append_blank {back : List Glyph} (h : ∀ g ∈ back, g.isBlank = true)
    (gs : List Glyph) : trimGlyphs (gs ++ back) = trimGlyphs gs := by
  have hback : ∀ g ∈ back.reverse, g.isBlank = true := fun g hg => h g (List.mem_reverse.mp hg)
  rw [trimGlyphs, List.dropWhile_append]
  split
  · -- nothing but blanks stands in front either
    rename_i hempty
    rw [trimGlyphs, List.isEmpty_iff.mp hempty, List.dropWhile_eq_nil_iff.mpr h]
  · rw [List.reverse_append, List.dropWhile_append_of_pos hback]
    rfl

/-- **BLANKS AROUND A TEXT.**  Trimming takes them away with those of the text itself. -/
theorem trim_between {front back : Bytes} (hfront : IsBlank front) (hback : IsBlank back)
    (core : Bytes) : trim (front ++ core ++ back) = trim core := by
  rw [trim_eq, glyphs_append _ hback.startsGlyph, glyphs_append_of_codes hfront.codes,
    trimGlyphs_append_blank hback, trimGlyphs_blank_append hfront, ← trim_eq]

theorem isBlank_nil : IsBlank [] := fun _ hg => absurd hg List.not_mem_nil

/-- Nothing is left of blanks. -/
theorem IsBlank.trim_eq_nil {w : Bytes} (h : IsBlank w) : trim w = [] := by
  have htrim := trim_between h isBlank_nil []
  rwa [List.append_nil, List.append_nil] at htrim

/-- The byte that may stand in front of a newline. -/
def carriageReturn : UInt8 := '\r'.toUInt8

theorem isBlank_carriageReturn : IsBlank [carriageReturn] := by decide

/-- A carriage return at the end of a line is trimmed anyway. -/
theorem trim_dropEnding (l : Bytes) : trim (l.dropEnding [carriageReturn]) = trim l := by
  rw [dropEnding]
  split
  · rename_i hsuffix
    obtain ⟨front, rfl⟩ := List.isSuffixOf_iff_suffix.mp hsuffix
    have htrim := trim_between isBlank_nil isBlank_carriageReturn front
    rw [List.nil_append] at htrim
    rw [htrim, List.length_append, Nat.add_sub_cancel, List.take_left]
  · rfl

end Bytes

end TwoPass
