import TwoPass.Proofs.Success
import TwoPass.Proofs.Text.Words
import TwoPass.Source.Line
import TwoPass.Source.Statement

/-!
# Statements — what both passes read off a line

Both passes see the same list of lines and take each one apart in the same way.  A line is
trimmed and stands under its position in the source, so the lines of the first texts are
the first lines (`ofTexts_take`) and their numbers tell them from the others
(`number_of_mem`).  The body of a line is what stands behind its label, and is trimmed
as the line is.
-/

namespace TwoPass

open Bytes

namespace Bytes

variable {b : UInt8} {s front rest : Bytes}

/-- A text is cut at the first occurrence of a byte. -/
theorem splitAt?_eq_some :
    splitAt? b s = some (front, rest) ↔ s = front ++ b :: rest ∧ b ∉ front := by
  constructor
  · intro h
    rw [splitAt?] at h
    split at h
    · cases h
    · rename_i x behind hdrop
      cases h
      -- what stopped the search is the byte itself
      have hx := List.head?_dropWhile_not (· != b) s
      rw [hdrop] at hx
      obtain rfl : x = b := by simpa using hx
      refine ⟨?_, fun hmem => ?_⟩
      · rw [← hdrop, List.takeWhile_append_dropWhile]
      · have hkept := List.mem_takeWhile_imp hmem
        simp at hkept
  · rintro ⟨rfl, hfront⟩
    -- the search goes over all of the front and stops behind it
    have hkept : ∀ x ∈ front, (x != b) = true := by
      intro x hx
      exact bne_iff_ne.mpr fun he => hfront (he ▸ hx)
    have hdrop : (front ++ b :: rest).dropWhile (· != b) = b :: rest := by
      rw [List.dropWhile_append_of_pos hkept]
      exact List.dropWhile_cons_of_neg (by simp)
    have htake : (front ++ b :: rest).takeWhile (· != b) = front := by
      rw [List.takeWhile_append_of_pos hkept, List.takeWhile_cons_of_neg (by simp), List.append_nil]
    rw [splitAt?, hdrop, htake]

/-- A text is not split exactly if the byte is not in it. -/
theorem splitAt?_eq_none : splitAt? b s = none ↔ b ∉ s := by
  constructor
  · intro h hmem
    obtain ⟨front, rest, rfl, hfront⟩ := List.eq_append_cons_of_mem hmem
    rw [splitAt?_eq_some.mpr ⟨rfl, hfront⟩] at h
    cases h
  · intro h
    cases hcut : splitAt? b s with
    | none => rfl
    | some cut =>
        obtain ⟨rfl, -⟩ := splitAt?_eq_some.mp hcut
        exact absurd (List.mem_append_right _ List.mem_cons_self) h

end Bytes

namespace Label

/-- What makes the first colon of a line part of its statement. -/
def Belongs (front : Bytes) : Prop := front.head? = some '.'.toUInt8 ∨ front.any isBreak = true

/-- The ways in which a line is cut: there is no colon, or the first one belongs to the statement,
    or it ends a label. -/
inductive Splits : Bytes → Option Bytes × Bytes → Prop
  | bare {line : Bytes} (h : ':'.toUInt8 ∉ line) : Splits line (none, line)
  | statement {front behind : Bytes} (hfront : ':'.toUInt8 ∉ front) (h : Belongs front) :
      Splits (front ++ ':'.toUInt8 :: behind) (none, front ++ ':'.toUInt8 :: behind)
  | label {name behind : Bytes} (hname : ':'.toUInt8 ∉ name) (h : ¬ Belongs name) :
      Splits (name ++ ':'.toUInt8 :: behind) (some name, trim behind)

/-- The check of what stands in front of a colon. -/
theorem belongs_iff {front : Bytes} :
    (front.head? == some '.'.toUInt8 || front.any isBreak) = true ↔ Belongs front := by
  rw [Bool.or_eq_true, beq_iff_eq, Belongs]

/-- A line is cut in exactly one way. -/
theorem splits_iff {line : Bytes} {cut : Option Bytes × Bytes} :
    Splits line cut ↔ split line = cut := by
  constructor
  · intro h
    cases h with
    | bare h => rw [split, splitAt?_eq_none.mpr h]
    | statement hfront h =>
        rw [split, splitAt?_eq_some.mpr ⟨rfl, hfront⟩]
        exact if_pos (belongs_iff.mpr h)
    | label hname h =>
        rw [split, splitAt?_eq_some.mpr ⟨rfl, hname⟩]
        exact if_neg (mt belongs_iff.mp h)
  · -- the branches of the cut are the constructors
    rintro rfl
    rw [split]
    split
    · rename_i hnone
      exact .bare (splitAt?_eq_none.mp hnone)
    · rename_i front behind hcut
      obtain ⟨rfl, hfront⟩ := splitAt?_eq_some.mp hcut
      split
      · rename_i h
        exact .statement hfront (belongs_iff.mp h)
      · rename_i h
        exact .label hfront (mt belongs_iff.mpr h)

/-- The names that a label may have are the identifiers. -/
theorem check_eq_ok {name : Bytes} : check name = .ok () ↔ isIdentifier name = true := by
  rw [check]
  split
  · rename_i h
    exact iff_of_true rfl h
  · rename_i h
    exact ⟨nofun, fun hname => absurd hname h⟩

/-- What stands behind the label of a trimmed line is trimmed. -/
theorem trimmed_split {line : Bytes} (h : Trimmed line) : Trimmed (split line).2 := by
  rw [split]
  split
  · exact h
  · split
    · exact h
    · exact trimmed_trim _

/-- An empty line has no label. -/
theorem split_nil : split [] = (none, []) := rfl

end Label

/-- The text of a body is the whole of what the body was read from. -/
theorem Body.eq_of_ofText {rest text : Bytes} (h : Body.ofText rest = .text text) :
    rest = text := by
  rw [Body.ofText] at h
  split at h
  · exact nomatch h
  · split at h
    · exact nomatch h
    · exact Body.text.inj h

namespace Statement

/-- A line that is read has the label and the body that it is cut into. -/
theorem eq_of_read {line : Bytes} {st : Statement} (h : read line = .ok st) :
    st = ⟨(Label.split line).1, Body.ofText (Label.split line).2⟩ := by
  rw [read] at h
  split at h
  · rename_i rest hsplit
    rw [hsplit]
    exact (Except.ok.inj h).symm
  · rename_i name rest hsplit
    rw [hsplit]
    obtain ⟨-, h⟩ := check_bind_eq_ok.mp h
    exact (pure_eq_ok.mp h).symm

/-- The label of a line that is read is an identifier. -/
theorem isIdentifier_of_read {line name : Bytes} {st : Statement} (h : read line = .ok st)
    (hname : st.label = some name) : Label.isIdentifier name = true := by
  rw [eq_of_read h] at hname
  rw [read] at h
  split at h
  · rename_i hsplit
    rw [hsplit] at hname
    cases hname
  · rename_i name' rest hsplit
    rw [hsplit] at hname
    cases hname
    obtain ⟨hcheck, -⟩ := check_bind_eq_ok.mp h
    exact Label.check_eq_ok.mp hcheck

/-- A line is read as it is cut, if its label is an identifier. -/
theorem read_of_split {line rest : Bytes} {label : Option Bytes}
    (h : Label.split line = (label, rest)) (hlabel : ∀ name ∈ label, Label.isIdentifier name = true) :
    read line = .ok ⟨label, Body.ofText rest⟩ := by
  rw [read, h]
  cases label with
  | none => rfl
  | some name =>
      exact check_bind_eq_ok.mpr ⟨Label.check_eq_ok.mpr (hlabel name rfl), rfl⟩

/-- The label of a statement is that of its line. -/
theorem label_of_read {line : Bytes} {st : Statement} (h : read line = .ok st) :
    st.label = (Label.split line).1 := by
  rw [eq_of_read h]

/-- The text of a statement is what is behind the label. -/
theorem text_of_read {line text : Bytes} {st : Statement} (h : read line = .ok st)
    (hbody : st.body = .text text) : (Label.split line).2 = text := by
  rw [eq_of_read h] at hbody
  exact Body.eq_of_ofText hbody

end Statement

namespace SourceLine

/-- The line of a text that stands at a position, if there is something on it. -/
def ofText? (number : Nat) (text : Bytes) : Option SourceLine :=
  if text.trim = [] then none else some ⟨number, text.trim⟩

/-- The lines of texts whose first one stands at a given position. -/
def linesFrom (number : Nat) (texts : List Bytes) : List SourceLine :=
  (texts.zipIdx number).filterMap fun placed => ofText? placed.2 placed.1

theorem ofTexts_eq (texts : List Bytes) : ofTexts texts = linesFrom 1 texts := rfl

theorem linesFrom_cons (number : Nat) (text : Bytes) (texts : List Bytes) :
    linesFrom number (text :: texts) =
      (ofText? number text).toList ++ linesFrom (number + 1) texts := by
  rw [linesFrom, List.zipIdx_cons]
  cases h : ofText? number text with
  | none => exact List.filterMap_cons_none h
  | some line => exact List.filterMap_cons_some h

/-- Lines go on counting behind those before. -/
theorem linesFrom_append (number : Nat) (texts texts' : List Bytes) :
    linesFrom number (texts ++ texts') =
      linesFrom number texts ++ linesFrom (number + texts.length) texts' := by
  rw [linesFrom, List.zipIdx_append, List.filterMap_append]
  rfl

/-- A line stands at its number among the texts it comes from, and is trimmed. -/
theorem getElem?_of_mem {number : Nat} {texts : List Bytes} {line : SourceLine}
    (h : line ∈ linesFrom number texts) :
    number ≤ line.number ∧
      ∃ text, texts[line.number - number]? = some text ∧ line.text = text.trim := by
  obtain ⟨⟨text, k⟩, hmem, hline⟩ := List.mem_filterMap.mp h
  obtain ⟨hle, hget⟩ := List.mk_mem_zipIdx_iff_le_and_getElem?_sub.mp hmem
  simp only [ofText?, Option.ite_none_left_eq_some, Option.some.injEq] at hline
  obtain ⟨-, rfl⟩ := hline
  exact ⟨hle, text, hget, rfl⟩

/-- The text of a line has no blanks around it. -/
theorem trimmed_of_mem {number : Nat} {texts : List Bytes} {line : SourceLine}
    (h : line ∈ linesFrom number texts) : Trimmed line.text := by
  obtain ⟨-, text, -, heq⟩ := getElem?_of_mem h
  rw [heq]
  exact trimmed_trim text

/-- The numbers of lines are positions of their texts. -/
theorem number_of_mem {number : Nat} {texts : List Bytes} {line : SourceLine}
    (h : line ∈ linesFrom number texts) :
    number ≤ line.number ∧ line.number < number + texts.length := by
  obtain ⟨hle, text, hget, -⟩ := getElem?_of_mem h
  have hlt := (List.getElem?_eq_some_iff.mp hget).1
  exact ⟨hle, by omega⟩

/-- Lines come in the order of their numbers. -/
theorem pairwise_linesFrom (number : Nat) (texts : List Bytes) :
    (linesFrom number texts).Pairwise fun l l' => l.number < l'.number := by
  induction texts generalizing number with
  | nil => exact List.Pairwise.nil
  | cons text texts ih =>
      rw [linesFrom_cons, ofText?]
      split
      · exact ih (number + 1)
      · refine List.Pairwise.cons ?_ (ih (number + 1))
        intro l hl
        exact (number_of_mem hl).1

/-- The lines behind the first texts of a source. -/
def linesBehind (k : Nat) (texts : List Bytes) : List SourceLine :=
  linesFrom (1 + (texts.take k).length) (texts.drop k)

/-- Among the first lines there are no later numbers. -/
theorem number_le_of_mem_take {k : Nat} {texts : List Bytes} {line : SourceLine}
    (h : line ∈ ofTexts (texts.take k)) : line.number ≤ k := by
  have hlt := (number_of_mem h).2
  rw [List.length_take] at hlt
  omega

/-- Behind the first lines there are no earlier numbers. -/
theorem lt_number_of_mem_behind {k : Nat} {texts : List Bytes} {line : SourceLine}
    (h : line ∈ linesBehind k texts) : k < line.number := by
  obtain ⟨hle, hlt⟩ := number_of_mem h
  rw [List.length_drop, List.length_take] at hlt
  rw [List.length_take] at hle
  omega

/-- The lines of a source are those of its first texts and those behind them. -/
theorem ofTexts_take (texts : List Bytes) (k : Nat) :
    ofTexts texts = ofTexts (texts.take k) ++ linesBehind k texts := by
  rw [ofTexts_eq, ofTexts_eq, linesBehind, ← linesFrom_append, List.take_append_drop]

/-- The next line behind the first texts, if there is something on it. -/
theorem linesBehind_eq_cons {k : Nat} {texts : List Bytes} {text : Bytes}
    (h : texts[k]? = some text) (hne : text.trim ≠ []) :
    linesBehind k texts = ⟨k + 1, text.trim⟩ :: linesBehind (k + 1) texts := by
  obtain ⟨hlt, rfl⟩ := List.getElem?_eq_some_iff.mp h
  rw [linesBehind, linesBehind, List.length_take_of_le hlt,
    List.length_take_of_le (Nat.le_of_lt hlt), List.drop_eq_getElem_cons hlt, linesFrom_cons,
    ofText?, if_neg hne, Nat.add_comm 1 k, Nat.add_comm 1 k.succ]
  rfl

/-- The lines behind the first texts come from the other texts. -/
theorem exists_text_of_mem_behind {k : Nat} {texts : List Bytes} {line : SourceLine}
    (h : line ∈ linesBehind k texts) :
    ∃ (j : Nat) (text : Bytes), k ≤ j ∧ texts[j]? = some text ∧ line.text = text.trim := by
  obtain ⟨-, text, hget, htext⟩ := getElem?_of_mem h
  rw [List.getElem?_drop] at hget
  exact ⟨_, text, Nat.le_add_right k _, hget, htext⟩

end SourceLine

end TwoPass
