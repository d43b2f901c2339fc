import TwoPass.Proofs.Source.Statements
import TwoPass.Proofs.Text.Blanks

/-!
# Lines — how source text is laid out

A source is a list of lines with newlines between them.  What is read are the pieces that
newlines end, which are the same lines but for an empty one at the end (`splitOn_newline`), each
without a carriage return behind it.  Neither matters once lines are trimmed and empty ones are
dropped, so the lines of a source that is not refused for its length are those between its
newlines (`ofTexts_of_lines?`).  Blanks around a line do not matter either
(`ofTexts_of_sameText`), and a carriage return in front of a newline is a blank
(`sameText_withReturns`).
-/

namespace TwoPass

namespace Bytes

/-- The byte that ends a line. -/
def newline : UInt8 := '\n'.toUInt8

/-- Puts a byte in front of pieces already found; the byte that is cut at starts a new piece. -/
def pieceStep (b c : UInt8) (pieces : List Bytes) : List Bytes :=
  if c == b then [] :: pieces
  else match pieces with
    | [] => [[c]]
    | p :: rest => (c :: p) :: rest

theorem splitOn_cons (b c : UInt8) (s : Bytes) :
    splitOn b (c :: s) = pieceStep b c (splitOn b s) := rfl

theorem rawLines_cons (c : UInt8) (s : Bytes) :
    rawLines (c :: s) = pieceStep newline c (rawLines s) := rfl

theorem pieceStep_self (b : UInt8) (pieces : List Bytes) : pieceStep b b pieces = [] :: pieces := by
  simp [pieceStep]

theorem pieceStep_of_ne {b c : UInt8} (h : c ≠ b) (p : Bytes) (rest : List Bytes) :
    pieceStep b c (p :: rest) = (c :: p) :: rest := by
  simp [pieceStep, h]

theorem pieceStep_nil {b c : UInt8} (h : c ≠ b) : pieceStep b c [] = [[c]] := by
  simp [pieceStep, h]

/-- There is always a piece, be it an empty one. -/
theorem splitOn_ne_nil (b : UInt8) (s : Bytes) : splitOn b s ≠ [] := by
  induction s with
  | nil => exact List.cons_ne_nil _ _
  | cons c s ih =>
      rw [splitOn_cons]
      by_cases hc : c = b
      · rw [hc, pieceStep_self]
        exact List.cons_ne_nil _ _
      · obtain ⟨p, rest, hp⟩ := List.exists_cons_of_ne_nil ih
        rw [hp, pieceStep_of_ne hc]
        exact List.cons_ne_nil _ _

/-- The pieces that newlines end are the lines between newlines, without an empty one at the
    end. -/
theorem splitOn_newline (s : Bytes) :
    splitOn newline s = rawLines s ∨ splitOn newline s = rawLines s ++ [[]] := by
  induction s with
  | nil => exact Or.inr rfl
  | cons c s ih =>
      rw [splitOn_cons, rawLines_cons]
      by_cases hc : c = newline
      · rw [hc, pieceStep_self, pieceStep_self]
        rcases ih with ih | ih
        · exact Or.inl (congrArg ([] :: ·) ih)
        · exact Or.inr (congrArg ([] :: ·) ih)
      · rcases ih with ih | ih
        · exact Or.inl (congrArg (pieceStep newline c) ih)
        · cases hraw : rawLines s with
          | nil =>
              -- the byte stands on the last line, which is no longer empty
              rw [ih, hraw, List.nil_append, pieceStep_of_ne hc, pieceStep_nil hc]
              exact Or.inl rfl
          | cons p rest =>
              rw [ih, hraw, List.cons_append, pieceStep_of_ne hc, pieceStep_of_ne hc]
              exact Or.inr rfl

/-- Two lines with the same text between blanks at their ends. -/
def SameText (l l' : Bytes) : Prop :=
  ∃ core front back front' back', l = front ++ core ++ back ∧ l' = front' ++ core ++ back' ∧
    IsBlank front ∧ IsBlank back ∧ IsBlank front' ∧ IsBlank back'

/-- What differs at the end only by a return is the same without blanks. -/
theorem SameText.trim_eq {l l' : Bytes} (h : SameText l l') : trim l = trim l' := by
  obtain ⟨core, front, back, front', back', rfl, rfl, hfront, hback, hfront', hback'⟩ := h
  rw [trim_between hfront hback, trim_between hfront' hback']

/-- A text with a carriage return in front of every newline. -/
def withReturns (s : Bytes) : Bytes :=
  s.flatMap fun b => if b = newline then [carriageReturn, newline] else [b]

/-- With carriage returns in front of newlines, every line but the last has one at its end. -/
theorem splitOn_withReturns (s : Bytes) :
    List.Forall₂ (fun l l' => l' = l ∨ l' = l ++ [carriageReturn]) (splitOn newline s)
      (splitOn newline (withReturns s)) := by
  induction s with
  | nil => exact List.Forall₂.cons (Or.inl rfl) List.Forall₂.nil
  | cons c s ih =>
      rw [withReturns, List.flatMap_cons, ← withReturns]
      by_cases hc : c = newline
      · rw [if_pos hc, hc, splitOn_cons, pieceStep_self]
        -- the empty line in front of a newline becomes a line with a return
        show List.Forall₂ _ _ (splitOn newline (carriageReturn :: newline :: withReturns s))
        rw [splitOn_cons, splitOn_cons, pieceStep_self, pieceStep_of_ne (by decide)]
        exact List.Forall₂.cons (Or.inr rfl) ih
      · rw [if_neg hc, splitOn_cons, List.singleton_append, splitOn_cons]
        -- any other byte goes in front of the first line on both sides
        obtain ⟨p, rest, hp⟩ := List.exists_cons_of_ne_nil (splitOn_ne_nil newline s)
        rw [hp] at ih ⊢
        obtain ⟨p', rest', hline, hrest, hp'⟩ := List.forall₂_cons_left_iff.mp ih
        rw [hp', pieceStep_of_ne hc, pieceStep_of_ne hc]
        refine List.Forall₂.cons ?_ hrest
        rcases hline with rfl | rfl
        · exact Or.inl rfl
        · exact Or.inr rfl

/-- Returns change the ends of lines only. -/
theorem sameText_withReturns (s : Bytes) :
    List.Forall₂ SameText (splitOn newline s) (splitOn newline (withReturns s)) := by
  refine (splitOn_withReturns s).imp ?_
  rintro l l' (rfl | rfl)
  · exact ⟨l', [], [], [], [], by simp, by simp, isBlank_nil, isBlank_nil, isBlank_nil, isBlank_nil⟩
  · exact ⟨l, [], [], [], [carriageReturn], by simp, by simp, isBlank_nil, isBlank_nil, isBlank_nil,
      isBlank_carriageReturn⟩

/-- Lines that all stay below the limit are read. -/
theorem exists_lines? {source : Bytes} (h : ∀ l ∈ splitOn newline source, l.length < lineLimit) :
    ∃ texts, source.lines? = some texts := by
  have hraw : ∀ l ∈ rawLines source, l.length < lineLimit := by
    intro l hl
    apply h
    rcases splitOn_newline source with heq | heq
    · exact heq ▸ hl
    · exact heq ▸ List.mem_append_left _ hl
  rw [lines?]
  exact ⟨_, if_pos (List.all_eq_true.mpr fun l hl => decide_eq_true (hraw l hl))⟩

end Bytes

namespace SourceLine

open Bytes

/-- Blank texts have no lines. -/
theorem linesFrom_blank {texts : List Bytes} (h : ∀ t ∈ texts, IsBlank t) (number : Nat) :
    linesFrom number texts = [] := by
  induction texts generalizing number with
  | nil => rfl
  | cons text texts ih =>
      have hblank := (h text List.mem_cons_self).trim_eq_nil
      rw [linesFrom_cons, ofText?, if_pos hblank]
      exact ih (fun t ht => h t (List.mem_cons_of_mem _ ht)) (number + 1)

/-- Lines depend on their texts only as far as trimming leaves them. -/
theorem linesFrom_of_trim {texts texts' : List Bytes}
    (h : List.Forall₂ (fun t t' => t.trim = t'.trim) texts texts') (number : Nat) :
    linesFrom number texts = linesFrom number texts' := by
  induction h generalizing number with
  | nil => rfl
  | cons htrim _ ih => rw [linesFrom_cons, linesFrom_cons, ofText?, ofText?, htrim, ih]

/-- Such lines are the same source. -/
theorem ofTexts_of_sameText {texts texts' : List Bytes} (h : List.Forall₂ SameText texts texts') :
    ofTexts texts = ofTexts texts' :=
  linesFrom_of_trim (h.imp fun _ _ => SameText.trim_eq) 1

/-- **THE LINES OF A SOURCE** are those between its newlines, if none of them is too long. -/
theorem ofTexts_of_lines? {source : Bytes} {texts : List Bytes} (h : source.lines? = some texts) :
    ofTexts texts = ofTexts (splitOn newline source) := by
  have hraw : ofTexts texts = ofTexts (rawLines source) := by
    rw [lines?] at h
    split at h
    · cases h
      refine linesFrom_of_trim (List.forall₂_map_left_iff.mpr ?_) 1
      exact List.forall₂_same.mpr fun l _ => trim_dropEnding l
    · cases h
  rcases splitOn_newline source with heq | heq
  · rw [hraw, heq]
  · have hblank : ∀ t ∈ [([] : Bytes)], IsBlank t := by
      intro t ht
      rw [List.mem_singleton.mp ht]
      exact isBlank_nil
    rw [hraw, heq, ofTexts_eq, ofTexts_eq, linesFrom_append, linesFrom_blank hblank, List.append_nil]

end SourceLine

end TwoPass
