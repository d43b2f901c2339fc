import TwoPass.Proofs.Text.Words

/-!
# Trimming — the two ends of a text one at a time

A text is its indentation and what stands behind it; trimming cuts the indentation off and
then the blanks at the end (`trim_eq_trimEnd`).  Both ends stop at the first glyph that is
not blank, so whatever stands on the other side of such a glyph does not matter.
`IsSolid` texts are long enough to stop them: what is cut off in front of one depends on the
text in front of it alone (`trimStart_append`), and what is cut off behind one on the text
behind it (`trimEnd_append`).
-/

namespace TwoPass

namespace Bytes

/-- The white space at the start of a text. -/
def indent (s : Bytes) : Bytes := ofGlyphs (s.glyphs.takeWhile Glyph.isBlank)

/-- A text without the white space at its start. -/
def trimStart (s : Bytes) : Bytes := ofGlyphs (s.glyphs.dropWhile Glyph.isBlank)

/-- A text without the white space at its end. -/
def trimEnd (s : Bytes) : Bytes := ofGlyphs (s.glyphs.reverse.dropWhile Glyph.isBlank).reverse

/-- A text is its indent and the rest. -/
theorem indent_append_trimStart (s : Bytes) : indent s ++ trimStart s = s := by
  rw [indent, trimStart, ← ofGlyphs_append, List.takeWhile_append_dropWhile, ofGlyphs_glyphs]

/-- Trimming the end takes something away there only. -/
theorem exists_trimEnd_append (s : Bytes) : ∃ ending, s = trimEnd s ++ ending := by
  refine ⟨ofGlyphs (s.glyphs.reverse.takeWhile Glyph.isBlank).reverse, ?_⟩
  rw [trimEnd, ← ofGlyphs_append, ← List.reverse_append, List.takeWhile_append_dropWhile,
    List.reverse_reverse, ofGlyphs_glyphs]

/-- Trimming is done at the start and then at the end. -/
theorem trim_eq_trimEnd (s : Bytes) : trim s = trimEnd (trimStart s) := by
  have hglyphs : glyphs (trimStart s) = s.glyphs.dropWhile Glyph.isBlank :=
    glyphs_ofGlyphs_of_suffix (List.dropWhile_suffix Glyph.isBlank)
  rw [trimEnd, hglyphs]
  rfl

/-- Trimmed text has no indentation. -/
theorem Trimmed.indent_eq_nil {s : Bytes} (h : Trimmed s) : indent s = [] := by
  rw [indent]
  cases hs : glyphs s with
  | nil => rfl
  | cons g gs =>
      have hg := h.head? g (by rw [hs]; rfl)
      rw [List.takeWhile_cons_of_neg (by rw [hg]; exact Bool.false_ne_true)]
      rfl

/-- A trimmed text has nothing to lose. -/
theorem Trimmed.trimStart_eq {s : Bytes} (h : Trimmed s) : trimStart s = s := by
  have hcut := indent_append_trimStart s
  rwa [h.indent_eq_nil, List.nil_append] at hcut

/-! ## Texts that stop trimming -/

/-- A text that is not empty, of ASCII bytes that are not blank. -/
def IsSolid (a : Bytes) : Prop :=
  a ≠ [] ∧ ∀ b ∈ a, isAscii b = true ∧ Glyph.isBlank (.ascii b) = false

theorem isSolid_singleton {b : UInt8} (hascii : isAscii b = true)
    (hblank : Glyph.isBlank (.ascii b) = false) : IsSolid [b] := by
  refine ⟨List.cons_ne_nil _ _, ?_⟩
  intro b' hb'
  rw [List.mem_singleton.mp hb']
  exact ⟨hascii, hblank⟩

/-- A solid text keeps what is in front and behind apart. -/
theorem IsSolid.glyphs_append {a : Bytes} (h : IsSolid a) (c s : Bytes) :
    glyphs (c ++ (a ++ s)) = glyphs c ++ (a.map Glyph.ascii ++ glyphs s) := by
  have hascii : ∀ b ∈ a, isAscii b = true := fun b hb => (h.2 b hb).1
  rw [Bytes.glyphs_append c (startsGlyph_of_ascii h.1 hascii s), glyphs_ascii_append hascii]

/-- There are no blanks in a solid text. -/
theorem IsSolid.isBlank {a : Bytes} (h : IsSolid a) : ∀ g ∈ a.map Glyph.ascii, g.isBlank = false := by
  intro g hg
  obtain ⟨b, hb, rfl⟩ := List.mem_map.mp hg
  exact (h.2 b hb).2

/-- Dropping stops in front of elements that are not dropped. -/
theorem dropWhile_append_of_kept {α : Type} {p : α → Bool} (xs : List α) {kept : List α}
    (hne : kept ≠ []) (hkept : ∀ x ∈ kept, p x = false) (ys : List α) :
    (xs ++ (kept ++ ys)).dropWhile p = xs.dropWhile p ++ (kept ++ ys) := by
  obtain ⟨x, kept, rfl⟩ := List.exists_cons_of_ne_nil hne
  have hx : ¬ p x = true := by
    rw [hkept x List.mem_cons_self]
    exact Bool.false_ne_true
  rw [List.dropWhile_append, List.cons_append, List.dropWhile_cons_of_neg hx]
  split
  · rename_i hempty
    rw [List.isEmpty_iff.mp hempty, List.nil_append]
  · rfl

/-- In front of solid text, the start is trimmed on its own. -/
theorem trimStart_append {a : Bytes} (h : IsSolid a) (c s : Bytes) :
    trimStart (c ++ (a ++ s)) = trimStart c ++ (a ++ s) := by
  have hne : a.map Glyph.ascii ≠ [] := mt List.map_eq_nil_iff.mp h.1
  rw [trimStart, h.glyphs_append, dropWhile_append_of_kept _ hne h.isBlank, ofGlyphs_append,
    ofGlyphs_append, ofGlyphs_map_ascii, ofGlyphs_glyphs]
  rfl

/-- Behind solid text, the end is trimmed on its own. -/
theorem trimEnd_append {a : Bytes} (h : IsSolid a) (c s : Bytes) :
    trimEnd (c ++ (a ++ s)) = c ++ (a ++ trimEnd s) := by
  have hne : (a.map Glyph.ascii).reverse ≠ [] := by
    rw [ne_eq, List.reverse_eq_nil_iff, List.map_eq_nil_iff]
    exact h.1
  have hblank : ∀ g ∈ (a.map Glyph.ascii).reverse, g.isBlank = false :=
    fun g hg => h.isBlank g (List.mem_reverse.mp hg)
  rw [trimEnd, h.glyphs_append, List.reverse_append, List.reverse_append, List.append_assoc,
    dropWhile_append_of_kept _ hne hblank, List.reverse_append, List.reverse_append,
    List.reverse_reverse, List.reverse_reverse, List.append_assoc, ofGlyphs_append,
    ofGlyphs_append, ofGlyphs_map_ascii, ofGlyphs_glyphs]
  rfl

/-- A text with something solid at both ends has nothing to trim. -/
theorem trimmed_of_isSolid {a b : Bytes} (ha : IsSolid a) (hb : IsSolid b) (s : Bytes) :
    Trimmed (a ++ (s ++ b)) := by
  have hstart : trimStart (a ++ (s ++ b)) = a ++ (s ++ b) := trimStart_append ha [] (s ++ b)
  have hend : trimEnd (a ++ s ++ (b ++ [])) = a ++ s ++ (b ++ []) := trimEnd_append hb (a ++ s) []
  rw [List.append_nil, List.append_assoc] at hend
  show trim (a ++ (s ++ b)) = a ++ (s ++ b)
  rw [trim_eq_trimEnd, hstart, hend]

end Bytes

end TwoPass
