import TwoPass.Proofs.Text.Glyphs
import TwoPass.Text.Blank
import Mathlib.Data.List.DropRight

/-!
# Words and trimming — runs of glyphs between separators

The words of a text are found glyph by glyph from the right.  Here they are characterised
from the left: skip separators, take the run up to the next separator, go on behind it
(`glyphWords_append`, `glyphWords_eq_cons`).  `Cuts` is this said of a whole text, and there is one
way to cut a text (`cuts_iff`).  Trimmed text is read as the trimmed reading
(`glyphs_trim`), so it starts and ends with a glyph that is not blank.
-/

namespace TwoPass

/-- Blanks are code points. -/
theorem Glyph.isSome_code?_of_isBlank {g : Glyph} (h : g.isBlank = true) :
    g.code?.isSome = true := by
  rw [Glyph.isBlank] at h
  cases hc : g.code? with
  | none => rw [hc] at h; exact nomatch h
  | some code => rfl

namespace Bytes

/-- The words of a text that has been read, and whether the first of them starts the text. -/
def scan (separator : Glyph → Bool) (gs : List Glyph) : List Bytes × Bool :=
  gs.foldr (wordStep separator) ([], false)

/-- The words of a text that has been read. -/
def glyphWords (separator : Glyph → Bool) (gs : List Glyph) : List Bytes := (scan separator gs).1

theorem wordsBy_eq (separator : Glyph → Bool) (s : Bytes) :
    wordsBy separator s = glyphWords separator (glyphs s) := rfl

variable {separator : Glyph → Bool}

@[simp] theorem glyphWords_nil : glyphWords separator [] = [] := rfl

/-- A separator ends a word. -/
theorem wordStep_separator {g : Glyph} (h : separator g = true) (st : List Bytes × Bool) :
    wordStep separator g st = (st.1, false) := by
  obtain ⟨ws, touching⟩ := st
  exact if_pos h

/-- Any other glyph starts a word behind a separator. -/
theorem wordStep_start {g : Glyph} (h : separator g = false) (ws : List Bytes) :
    wordStep separator g (ws, false) = (g.bytes :: ws, true) := by
  cases ws with
  | nil => simp [wordStep, h]
  | cons w ws => simp [wordStep, h]

/-- It prolongs the word that it touches. -/
theorem wordStep_touching {g : Glyph} (h : separator g = false) (w : Bytes) (ws : List Bytes) :
    wordStep separator g (w :: ws, true) = ((g.bytes ++ w) :: ws, true) := by
  rw [wordStep, h]
  rfl

/-- Whatever stands behind it, a glyph that is no separator starts the first word. -/
theorem wordStep_glyph {g : Glyph} (h : separator g = false) (st : List Bytes × Bool) :
    ∃ rest ws, wordStep separator g st = ((g.bytes ++ rest) :: ws, true) := by
  obtain ⟨ws, touching⟩ := st
  cases touching with
  | false => exact ⟨[], ws, by rw [wordStep_start h, List.append_nil]⟩
  | true =>
      cases ws with
      | nil => exact ⟨[], [], by simp [wordStep, h]⟩
      | cons w ws => exact ⟨w, ws, wordStep_touching h w ws⟩

/-- A separator in front of a text adds nothing to its words. -/
theorem glyphWords_separator {g : Glyph} (h : separator g = true) (gs : List Glyph) :
    glyphWords separator (g :: gs) = glyphWords separator gs := by
  rw [glyphWords, scan, List.foldr_cons, wordStep_separator h]
  rfl

/-- Separators in front do not matter. -/
theorem glyphWords_separators {gs : List Glyph} (h : ∀ g ∈ gs, separator g = true)
    (hs : List Glyph) : glyphWords separator (gs ++ hs) = glyphWords separator hs := by
  induction gs with
  | nil => rfl
  | cons g gs ih =>
      rw [List.cons_append, glyphWords_separator (h g List.mem_cons_self),
        ih (fun g' hg' => h g' (List.mem_cons_of_mem _ hg'))]

/-- In front of a separator, or at the end, nothing touches the next word. -/
theorem scan_of_head {gs : List Glyph} (h : ∀ g ∈ gs.head?, separator g = true) :
    scan separator gs = (glyphWords separator gs, false) := by
  cases gs with
  | nil => rfl
  | cons g gs =>
      have hg := h g rfl
      rw [glyphWords_separator hg, scan, List.foldr_cons, wordStep_separator hg]
      rfl

/-- A run of glyphs that are no separators grows into one word. -/
theorem foldr_wordStep_run {run : List Glyph} (hne : run ≠ [])
    (h : ∀ g ∈ run, separator g = false) (ws : List Bytes) :
    run.foldr (wordStep separator) (ws, false) = (ofGlyphs run :: ws, true) := by
  induction run with
  | nil => exact absurd rfl hne
  | cons g run ih =>
      have hg := h g List.mem_cons_self
      rw [List.foldr_cons]
      cases run with
      | nil =>
          rw [List.foldr_nil, wordStep_start hg, ofGlyphs_cons, ofGlyphs_nil, List.append_nil]
      | cons g' run =>
          rw [ih (by simp) (fun x hx => h x (List.mem_cons_of_mem _ hx)), wordStep_touching hg]
          rfl

/-- A run in front of a word that it touches becomes part of it. -/
theorem foldr_wordStep_touching {run : List Glyph} (h : ∀ g ∈ run, separator g = false)
    (w : Bytes) (ws : List Bytes) :
    run.foldr (wordStep separator) (w :: ws, true) = ((ofGlyphs run ++ w) :: ws, true) := by
  induction run with
  | nil => rfl
  | cons g run ih =>
      rw [List.foldr_cons, ih (fun x hx => h x (List.mem_cons_of_mem _ hx)),
        wordStep_touching (h g List.mem_cons_self), ofGlyphs_cons, List.append_assoc]

/-- A word that starts a text starts with the first byte of the text. -/
theorem head?_of_scan {s w : Bytes} {ws : List Bytes}
    (h : scan separator (glyphs s) = (w :: ws, true)) : w.head? = s.head? := by
  cases hg : glyphs s with
  | nil => rw [hg] at h; exact nomatch h
  | cons g gs =>
      rw [hg, scan, List.foldr_cons] at h
      have hs : s = g.bytes ++ ofGlyphs gs := by rw [← ofGlyphs_cons, ← hg, ofGlyphs_glyphs]
      -- a glyph that was read has a first byte, which is that of the text
      obtain ⟨b, tail, hb⟩ : ∃ b tail, g.bytes = b :: tail := by
        have hread : g.IsRead := isRead_of_mem_glyphs (hg ▸ List.mem_cons_self)
        cases g with
        | stray b => exact ⟨b, [], rfl⟩
        | scalar code bs =>
            obtain ⟨b, -, tail, hbs, -⟩ := hread
            exact ⟨b, tail, hbs⟩
      cases hsep : separator g with
      | true =>
          rw [wordStep_separator hsep, Prod.mk.injEq] at h
          exact absurd h.2 Bool.false_ne_true
      | false =>
          obtain ⟨rest, vs, hstep⟩ := wordStep_glyph hsep (scan separator gs)
          rw [← scan, hstep, Prod.mk.injEq, List.cons.injEq] at h
          rw [← h.1.1, hs, hb]
          rfl

/-- A run up to a separator or the end is the first word. -/
theorem glyphWords_append {run gs : List Glyph} (hne : run ≠ [])
    (h : ∀ g ∈ run, separator g = false) (hgs : ∀ g ∈ gs.head?, separator g = true) :
    glyphWords separator (run ++ gs) = ofGlyphs run :: glyphWords separator gs := by
  rw [glyphWords, scan, List.foldr_append, ← scan, scan_of_head hgs, foldr_wordStep_run hne h]

/-- ASCII text without separators, up to a separator or the end, is the first word. -/
theorem wordsBy_append {w s : Bytes} (hne : w ≠ [])
    (hw : ∀ b ∈ w, isAscii b = true ∧ separator (.ascii b) = false)
    (hs : ∀ g ∈ (glyphs s).head?, separator g = true) :
    wordsBy separator (w ++ s) = w :: wordsBy separator s := by
  rw [wordsBy_eq, glyphs_ascii_append fun b hb => (hw b hb).1, glyphWords_append, ofGlyphs_map_ascii,
    wordsBy_eq]
  · exact fun hnil => hne (List.map_eq_nil_iff.mp hnil)
  · intro g hg
    obtain ⟨b, hb, rfl⟩ := List.mem_map.mp hg
    exact (hw b hb).2
  · exact hs

/-- A run of a reading up to a separator is the reading of its own bytes. -/
theorem glyphs_run {s : Bytes} {pre run rest : List Glyph}
    (hscalar : ∀ g, separator g = true → g.code?.isSome = true)
    (hcut : glyphs s = pre ++ (run ++ rest)) (hrest : ∀ g ∈ rest.head?, separator g = true) :
    glyphs (ofGlyphs run) = run := by
  have hsuf : run ++ rest <:+ glyphs s := ⟨pre, hcut.symm⟩
  exact glyphs_ofGlyphs_of_append hsuf fun g hg => hscalar g (hrest g hg)

/-- Every text is separators, a run, and the rest behind it. -/
theorem exists_run (separator : Glyph → Bool) (gs : List Glyph) :
    ∃ pre run rest, gs = pre ++ (run ++ rest) ∧ (∀ g ∈ pre, separator g = true) ∧
      (∀ g ∈ run, separator g = false) ∧ (∀ g ∈ rest.head?, separator g = true) ∧
      (run = [] → rest = []) := by
  refine ⟨gs.takeWhile separator, (gs.dropWhile separator).takeWhile (!separator ·),
    (gs.dropWhile separator).dropWhile (!separator ·), ?_, ?_, ?_, ?_, ?_⟩
  · rw [List.takeWhile_append_dropWhile, List.takeWhile_append_dropWhile]
  · intro g hg
    exact List.mem_takeWhile_imp hg
  · intro g hg
    simpa using List.mem_takeWhile_imp hg
  · intro g hg
    have := List.head?_dropWhile_not (!separator ·) (gs.dropWhile separator)
    rw [Option.mem_def.mp hg] at this
    simpa using this
  · intro hrun
    have hhead := List.head?_dropWhile_not separator gs
    cases hd : gs.dropWhile separator with
    | nil => rfl
    | cons g ds =>
        rw [hd] at hrun hhead
        rw [List.takeWhile_cons_of_pos (by simpa using hhead)] at hrun
        exact nomatch hrun

/-- The first word of a text is a run behind separators, and the other words are those of
    what stands behind it. -/
theorem glyphWords_eq_cons {gs : List Glyph} {w : Bytes} {ws : List Bytes}
    (h : glyphWords separator gs = w :: ws) :
    ∃ pre run rest, gs = pre ++ (run ++ rest) ∧ (∀ g ∈ pre, separator g = true) ∧ run ≠ [] ∧
      (∀ g ∈ run, separator g = false) ∧ (∀ g ∈ rest.head?, separator g = true) ∧
      w = ofGlyphs run ∧ ws = glyphWords separator rest := by
  obtain ⟨pre, run, rest, rfl, hpre, hrun, hrest, hnil⟩ := exists_run separator gs
  rw [glyphWords_separators hpre] at h
  have hne : run ≠ [] := by
    intro hr
    rw [hr, hnil hr] at h
    exact nomatch h
  rw [glyphWords_append hne hrun hrest] at h
  obtain ⟨hw, hws⟩ := List.cons.inj h
  exact ⟨pre, run, rest, rfl, hpre, hne, hrun, hrest, hw.symm, hws.symm⟩

/-- A text cut into words: each is a run up to the next separator or the end, and what stands in
    front of the first one, between them and behind the last one are separators. -/
inductive Cuts (separator : Glyph → Bool) : List Glyph → List Bytes → Prop
  | gap {gap : List Glyph} (hgap : ∀ g ∈ gap, separator g = true) : Cuts separator gap []
  | word {gap run rest : List Glyph} {ws : List Bytes} (hgap : ∀ g ∈ gap, separator g = true)
      (hne : run ≠ []) (hrun : ∀ g ∈ run, separator g = false)
      (hrest : ∀ g ∈ rest.head?, separator g = true) (h : Cuts separator rest ws) :
      Cuts separator (gap ++ (run ++ rest)) (ofGlyphs run :: ws)

/-- The words that are found are those that the text is cut into. -/
theorem cuts_iff {gs : List Glyph} {ws : List Bytes} :
    Cuts separator gs ws ↔ glyphWords separator gs = ws := by
  constructor
  · -- a cut is found: by induction on the cut
    intro h
    induction h with
    | @gap gap hgap => rw [← List.append_nil gap, glyphWords_separators hgap, glyphWords_nil]
    | word hgap hne hrun hrest _ ih =>
        rw [glyphWords_separators hgap, glyphWords_append hne hrun hrest, ih]
  · -- what is found is a cut: by induction on the words, each behind its gap
    intro h
    induction ws generalizing gs with
    | nil =>
        obtain ⟨pre, run, rest, rfl, hpre, hrun, hrest, hnil⟩ := exists_run separator gs
        rw [glyphWords_separators hpre] at h
        by_cases hne : run = []
        · rw [hne, hnil hne, List.append_nil, List.append_nil]
          exact .gap hpre
        · rw [glyphWords_append hne hrun hrest] at h
          cases h
    | cons w ws ih =>
        obtain ⟨pre, run, rest, rfl, hpre, hne, hrun, hrest, rfl, rfl⟩ := glyphWords_eq_cons h
        exact .word hpre hne hrun hrest (ih rfl)

/-- A text is what is left of it without its ending, and that ending. -/
theorem dropEndWhile_append (p : UInt8 → Bool) (s : Bytes) :
    ∃ ending, s = s.dropEndWhile p ++ ending ∧ ∀ b ∈ ending, p b = true := by
  refine ⟨(s.reverse.takeWhile p).reverse, ?_, ?_⟩
  · rw [dropEndWhile, ← List.reverse_append, List.takeWhile_append_dropWhile, List.reverse_reverse]
  · intro b hb
    exact List.mem_takeWhile_imp (List.mem_reverse.mp hb)

/-! ## Trimming -/

/-- A reading without the blanks at its two ends. -/
def trimGlyphs (gs : List Glyph) : List Glyph :=
  ((gs.dropWhile Glyph.isBlank).reverse.dropWhile Glyph.isBlank).reverse

/-- Trimming cuts blanks off, and what is left has none at its start. -/
theorem exists_trimGlyphs (gs : List Glyph) :
    ∃ pre post, gs = pre ++ (trimGlyphs gs ++ post) ∧ (∀ g ∈ post, g.isBlank = true) ∧
      ∀ g ∈ (trimGlyphs gs).head?, g.isBlank = false := by
  have hcut : gs.dropWhile Glyph.isBlank =
      trimGlyphs gs ++ ((gs.dropWhile Glyph.isBlank).reverse.takeWhile Glyph.isBlank).reverse := by
    rw [trimGlyphs, ← List.reverse_append, List.takeWhile_append_dropWhile, List.reverse_reverse]
  refine ⟨gs.takeWhile Glyph.isBlank,
    ((gs.dropWhile Glyph.isBlank).reverse.takeWhile Glyph.isBlank).reverse, ?_, ?_, ?_⟩
  · rw [← hcut, List.takeWhile_append_dropWhile]
  · intro g hg
    exact List.mem_takeWhile_imp (List.mem_reverse.mp hg)
  · intro g hg
    have hhead := List.head?_dropWhile_not Glyph.isBlank gs
    rw [hcut, List.head?_append, Option.mem_def.mp hg] at hhead
    simpa using hhead

theorem trim_eq (s : Bytes) : trim s = ofGlyphs (trimGlyphs (glyphs s)) := rfl

/-- Trimmed text is read as the trimmed reading. -/
theorem glyphs_trim (s : Bytes) : glyphs (trim s) = trimGlyphs (glyphs s) := by
  obtain ⟨pre, post, hcut, hpost, -⟩ := exists_trimGlyphs (glyphs s)
  rw [trim_eq]
  have hsuf : trimGlyphs (glyphs s) ++ post <:+ glyphs s := ⟨pre, hcut.symm⟩
  refine glyphs_ofGlyphs_of_append hsuf ?_
  intro g hg
  exact Glyph.isSome_code?_of_isBlank (hpost g (List.mem_of_mem_head? hg))

/-- Text with no white space at its two ends. -/
def Trimmed (s : Bytes) : Prop := trim s = s

/-- Trimming a second time changes nothing. -/
theorem trimmed_trim (s : Bytes) : Trimmed (trim s) := by
  obtain ⟨pre, post, -, -, hhead⟩ := exists_trimGlyphs (glyphs s)
  have hfront : (trimGlyphs (glyphs s)).dropWhile Glyph.isBlank = trimGlyphs (glyphs s) := by
    cases ht : trimGlyphs (glyphs s) with
    | nil => rfl
    | cons g gs =>
        rw [ht] at hhead
        rw [List.dropWhile_cons_of_neg (by rw [hhead g rfl]; exact Bool.false_ne_true)]
  show ofGlyphs (trimGlyphs (glyphs (trim s))) = trim s
  rw [glyphs_trim, trimGlyphs, hfront]
  show ofGlyphs ((trimGlyphs (glyphs s)).reverse.dropWhile Glyph.isBlank).reverse
    = ofGlyphs (trimGlyphs (glyphs s))
  rw [trimGlyphs, List.reverse_reverse, List.dropWhile_idempotent]

/-- Trimmed text does not start with a blank. -/
theorem Trimmed.head? {s : Bytes} (h : Trimmed s) : ∀ g ∈ (glyphs s).head?, g.isBlank = false := by
  obtain ⟨pre, post, -, -, hhead⟩ := exists_trimGlyphs (glyphs s)
  rwa [← glyphs_trim, h] at hhead

/-- The first word of trimmed text starts the text. -/
theorem Trimmed.isPrefixOf {s w : Bytes} {ws : List Bytes} (h : Trimmed s)
    (hw : words s = w :: ws) : w.isPrefixOf s = true := by
  rw [words, wordsBy_eq] at hw
  obtain ⟨pre, run, rest, hcut, hpre, -, -, -, rfl, -⟩ := glyphWords_eq_cons hw
  have hnone : pre = [] := by
    cases pre with
    | nil => rfl
    | cons g pre =>
        have hblank := hpre g List.mem_cons_self
        rw [h.head? g (by rw [hcut]; rfl)] at hblank
        exact absurd hblank Bool.false_ne_true
  rw [List.isPrefixOf_iff_prefix]
  refine ⟨ofGlyphs rest, ?_⟩
  rw [← ofGlyphs_append, ← ofGlyphs_glyphs s, hcut, hnone, List.nil_append, ofGlyphs_append]

end Bytes

end TwoPass
