import TwoPass.Proofs.Source.Names
import TwoPass.Proofs.Source.Statements

/-!
# Substitution — which lines have all their references filled in

A line refers to the longest name behind each of its marks; `names` lists them from left to right,
mark by mark and without a look at the pieces that the line is cut into.  Substitution goes through
the line in the same order, so its outcome can be read off that list (`substitute_outcome`): the
first name that is not in the table is the fault, and if there is none the line is rewritten.  What
the table says of other names does not matter (`substitute_congr`).

A mark never belongs to a name, so it divides a line: what stands in front of it is substituted on
its own (`substitute_append_mark`).
-/

namespace TwoPass

namespace Reference

open Bytes

/-- The names that a line refers to, from left to right: the longest one behind each mark. -/
def names : Bytes → List Bytes
  | [] => []
  | b :: behind => if b = mark then behind.takeWhile isWord :: names behind else names behind

/-- The leftmost name of a line that is not in a table. -/
def unknown? (labels : LabelTable) (line : Bytes) : Option Bytes :=
  (names line).find? fun name => (labels.address? name).isNone

/-! ## The names of a line -/

theorem mark_notMem_of_isWord {name : Bytes} (h : ∀ b ∈ name, isWord b = true) : mark ∉ name := by
  intro hmem
  have hword := h mark hmem
  rw [isWord_mark] at hword
  exact Bool.false_ne_true hword

/-- Bytes in front of the first mark refer to nothing. -/
theorem names_append {c : Bytes} (h : mark ∉ c) (s : Bytes) : names (c ++ s) = names s := by
  induction c with
  | nil => rfl
  | cons b c ih =>
      have hb : b ≠ mark := (List.ne_of_not_mem_cons h).symm
      rw [List.cons_append, names, if_neg hb, ih (List.not_mem_of_not_mem_cons h)]

/-- Without a mark there are no names. -/
theorem names_of_not_mem {c : Bytes} (h : mark ∉ c) : names c = [] := by
  have happ := names_append h []
  rwa [List.append_nil] at happ

/-- A reference in front of a text that does not prolong its name. -/
theorem names_reference {name s : Bytes} (hname : ∀ b ∈ name, isWord b = true)
    (hs : ∀ b ∈ s.head?, isWord b = false) : names (mark :: name ++ s) = name :: names s := by
  rw [List.cons_append, names, if_pos rfl, (takeWhile_name hname hs).1,
    names_append (mark_notMem_of_isWord hname)]

/-- A text in front of a mark does not prolong a name by more than the text itself does. -/
theorem head?_append_mark {s : Bytes} (hs : ∀ b ∈ s.head?, isWord b = false) (t : Bytes) :
    ∀ b ∈ (s ++ mark :: t).head?, isWord b = false := by
  intro b hb
  cases s with
  | nil =>
      cases hb
      exact isWord_mark
  | cons b' s =>
      cases hb
      exact hs b rfl

/-- What is put behind a line with a reference in it is put behind the rest of the line. -/
theorem append_behind (c name s t : Bytes) :
    c ++ (mark :: name ++ s) ++ t = c ++ (mark :: name ++ (s ++ t)) := by
  simp only [List.append_assoc, List.cons_append]

/-- The names in front of a mark are those of the text in front of it. -/
theorem names_append_mark (s t : Bytes) :
    names (s ++ mark :: t) = names s ++ names (mark :: t) := by
  induction s using induction_on with
  | verbatim c hc => rw [names_append hc, names_of_not_mem hc, List.nil_append]
  | reference c name s hc hname hstop ih =>
      rw [append_behind, names_append hc, names_reference hname (head?_append_mark hstop t), ih,
        names_append hc, names_reference hname hstop, List.cons_append]

/-! ## What becomes of a line -/

variable {labels labels' : LabelTable} {c name s out : Bytes}

/-- The first reference of a line, if its name is in the table. -/
theorem substitute_of_known (hc : mark ∉ c) (hname : ∀ b ∈ name, isWord b = true)
    (hstop : ∀ b ∈ s.head?, isWord b = false) {a : Int} (ha : labels.address? name = some a) :
    substitute labels (c ++ (mark :: name ++ s)) =
      (substitute labels s).map fun out => c ++ (decimal a ++ out) := by
  obtain ⟨htake, hdrop⟩ := takeWhile_name hname hstop
  rw [substitute_append hc, List.cons_append, substitute_mark, htake, hdrop, ha]
  cases substitute labels s with
  | error f => rfl
  | ok out => rfl

/-- The first reference of a line, if its name is not in the table. -/
theorem substitute_of_unknown (hc : mark ∉ c) (hname : ∀ b ∈ name, isWord b = true)
    (hstop : ∀ b ∈ s.head?, isWord b = false) (ha : labels.address? name = none) :
    substitute labels (c ++ (mark :: name ++ s)) = .error (.labelUnknown name) := by
  rw [substitute_append hc, List.cons_append, substitute_mark, (takeWhile_name hname hstop).1, ha]
  rfl

/-- A line is filled in if all its names are in the table, and refused for the leftmost one
    otherwise. -/
theorem substitute_outcome (labels : LabelTable) (line : Bytes) :
    (unknown? labels line = none ∧ ∃ out, substitute labels line = .ok out) ∨
      ∃ name, unknown? labels line = some name ∧
        substitute labels line = .error (.labelUnknown name) := by
  induction line using induction_on with
  | verbatim c hc =>
      refine Or.inl ⟨?_, c, substitute_of_not_mem hc⟩
      rw [unknown?, names_of_not_mem hc, List.find?_nil]
  | reference c name s hc hname hstop ih =>
      have hnames : names (c ++ (mark :: name ++ s)) = name :: names s := by
        rw [names_append hc, names_reference hname hstop]
      cases ha : labels.address? name with
      | none =>
          refine Or.inr ⟨name, ?_, substitute_of_unknown hc hname hstop ha⟩
          rw [unknown?, hnames, List.find?_cons_of_pos (by rw [ha]; rfl)]
      | some a =>
          -- a known name is passed over, and the rest of the line decides
          have hrest : unknown? labels (c ++ (mark :: name ++ s)) = unknown? labels s := by
            rw [unknown?, hnames, List.find?_cons_of_neg (by rw [ha]; exact Bool.false_ne_true),
              unknown?]
          rw [hrest, substitute_of_known hc hname hstop ha]
          rcases ih with ⟨hnone, out, hout⟩ | ⟨other, hother, herror⟩
          · exact Or.inl ⟨hnone, _, map_eq_ok.mpr ⟨out, hout, rfl⟩⟩
          · exact Or.inr ⟨other, hother, map_eq_error.mpr herror⟩

/-- Only the addresses of the names of a line matter. -/
theorem substitute_congr {line : Bytes}
    (h : ∀ name ∈ names line, labels'.address? name = labels.address? name) :
    substitute labels' line = substitute labels line := by
  induction line using induction_on with
  | verbatim c hc => rw [substitute_of_not_mem hc, substitute_of_not_mem hc]
  | reference c name s hc hname hstop ih =>
      rw [names_append hc, names_reference hname hstop] at h
      have hfirst := h name List.mem_cons_self
      have hrest := ih fun other hother => h other (List.mem_cons_of_mem _ hother)
      cases ha : labels.address? name with
      | none =>
          rw [substitute_of_unknown hc hname hstop ha,
            substitute_of_unknown hc hname hstop (hfirst.trans ha)]
      | some a =>
          rw [substitute_of_known hc hname hstop ha,
            substitute_of_known hc hname hstop (hfirst.trans ha), hrest]

/-- A number has no mark in it. -/
theorem mark_notMem_decimal (a : Int) : mark ∉ decimal a := by
  intro hmem
  rcases mem_decimal mark hmem with hdigit | hminus
  · exact absurd hdigit (by decide)
  · exact absurd hminus (by decide)

/-- There is no mark in a line that is filled in. -/
theorem mark_notMem_of_substitute (h : substitute labels s = .ok out) : mark ∉ out := by
  rw [substitute_eq_ok] at h
  induction h with
  | verbatim hc => exact hc
  | reference hc _ _ htext _ ih =>
      obtain ⟨a, -, rfl⟩ := htext
      simp only [List.mem_append, not_or]
      exact ⟨hc, mark_notMem_decimal a, ih⟩

/-- In front of a mark, a text is substituted on its own. -/
theorem substitute_append_mark (s t : Bytes) :
    substitute labels (s ++ mark :: t) =
      substitute labels s >>= fun out => (substitute labels (mark :: t)).map (out ++ ·) := by
  induction s using induction_on with
  | verbatim c hc =>
      rw [substitute_append hc, substitute_of_not_mem hc]
      rfl
  | reference c name s hc hname hstop ih =>
      -- a name in the first text still ends where it did, if only at the mark
      have hstop' := head?_append_mark hstop t
      rw [append_behind]
      cases ha : labels.address? name with
      | none =>
          rw [substitute_of_unknown hc hname hstop ha, substitute_of_unknown hc hname hstop' ha]
          rfl
      | some a =>
          rw [substitute_of_known hc hname hstop ha, substitute_of_known hc hname hstop' ha, ih]
          cases substitute labels s with
          | error f => rfl
          | ok out =>
              cases substitute labels (mark :: t) with
              | error f => rfl
              | ok out' =>
                  show Except.ok (c ++ (decimal a ++ (out ++ out'))) =
                    Except.ok (c ++ (decimal a ++ out) ++ out')
                  simp only [List.append_assoc]

/-- A reference anywhere in a line has the address of its name in its place, and the texts on its
    two sides are substituted on their own. -/
theorem substitute_around (hname : ∀ b ∈ name, isWord b = true) {front behind : Bytes}
    (hstop : ∀ b ∈ behind.head?, isWord b = false) :
    substitute labels (front ++ (mark :: name ++ behind)) = .ok out ↔
      ∃ a before after, labels.address? name = some a ∧ substitute labels front = .ok before ∧
        substitute labels behind = .ok after ∧ out = before ++ (decimal a ++ after) := by
  rw [List.cons_append, substitute_append_mark, bind_eq_ok]
  constructor
  · rintro ⟨before, hbefore, h⟩
    obtain ⟨filled, hfilled, rfl⟩ := map_eq_ok.mp h
    obtain ⟨a, after, ha, hafter, rfl⟩ := reference_of_substitute hname hstop hfilled
    exact ⟨a, before, after, ha, hbefore, hafter, rfl⟩
  · rintro ⟨a, before, after, ha, hbefore, hafter, rfl⟩
    refine ⟨before, hbefore, map_eq_ok.mpr ⟨decimal a ++ after, ?_, rfl⟩⟩
    exact substitute_reference hname hstop ha hafter

/-- No name is unknown exactly if all have an address. -/
theorem unknown?_eq_none_iff {line : Bytes} :
    unknown? labels line = none ↔ ∀ name ∈ names line, ∃ a, labels.address? name = some a := by
  rw [unknown?, List.find?_eq_none]
  refine forall₂_congr fun name _ => ?_
  rw [Bool.not_eq_true, Option.isNone_eq_false_iff, Option.isSome_iff_exists]

/-- **SUBSTITUTION.**  A line is filled in exactly if every name behind one of its marks is in the
    table, and is refused for the leftmost name that is not.  A line that is filled in has the
    addresses of its names in their places and all its other bytes as they were; it has no mark left
    and stays as it is when it is filled in again, from whatever table, and it has as many words as
    before.  The outcome depends on the table only as far as it is about the names of the line.  And
    where a label stands behind a mark, with no byte behind it that could belong to a label, this
    label is what the mark refers to, whatever else there is on the line. -/
theorem substitute_decides (labels : LabelTable) (line : Bytes) :
    ((∃ out, substitute labels line = .ok out) ↔
      ∀ name ∈ names line, ∃ a, labels.address? name = some a) ∧
    (∀ f, substitute labels line = .error f ↔
      ∃ name, unknown? labels line = some name ∧ f = .labelUnknown name) ∧
    (∀ out, substitute labels line = .ok out →
      Rewrites (StandsFor labels) line out ∧ mark ∉ out ∧
        (∀ labels', substitute labels' out = .ok out) ∧ out.words.length = line.words.length) ∧
    (∀ labels', (∀ name ∈ names line, labels'.address? name = labels.address? name) →
      substitute labels' line = substitute labels line) ∧
    (∀ front name behind, Label.check name = .ok () → (∀ b ∈ behind.head?, isWord b = false) →
      line = front ++ (mark :: name ++ behind) →
      names line = names front ++ name :: names behind ∧
        ∀ out, substitute labels line = .ok out ↔
          ∃ a before after, labels.address? name = some a ∧ substitute labels front = .ok before ∧
            substitute labels behind = .ok after ∧ out = before ++ (decimal a ++ after)) := by
  -- either all names are known or there is a first unknown one: this settles both outcomes
  refine ⟨?_, ?_, ?_, fun labels' h => substitute_congr h, ?_⟩
  · rw [← unknown?_eq_none_iff]
    rcases substitute_outcome labels line with ⟨hnone, hok⟩ | ⟨name, hsome, herror⟩
    · exact iff_of_true hok hnone
    · rw [hsome, herror]
      simp
  · intro f
    rcases substitute_outcome labels line with ⟨hnone, out, hok⟩ | ⟨name, hsome, herror⟩
    · rw [hnone, hok]
      simp
    · rw [hsome, herror]
      simp [eq_comm]
  · intro out h
    have hclean := mark_notMem_of_substitute h
    refine ⟨substitute_eq_ok.mp h, hclean, fun labels' => substitute_of_not_mem hclean, ?_⟩
    exact (wordsBy_substitute isBlank_of_isPlain h).length_eq.symm
  · rintro front name behind hcheck hstop rfl
    have hname := Label.isWord_of_isIdentifier (Label.check_eq_ok.mp hcheck)
    refine ⟨?_, fun out => substitute_around hname hstop⟩
    rw [List.cons_append, names_append_mark, ← List.cons_append, names_reference hname hstop]

/-- References next to each other, and a byte that is no text at all. -/
def crowdedLine : Bytes := Bytes.ofString "@a@b1," ++ 0xFF :: Bytes.ofString " x@a."

/-- A table for that line. -/
def crowdedTable : LabelTable :=
  ⟨[⟨Bytes.ofString "a", ⟨5, .data⟩⟩, ⟨Bytes.ofString "b1", ⟨40000, .code⟩⟩]⟩

/-- The same line with the addresses in place. -/
def crowdedFilled : Bytes := Bytes.ofString "540000," ++ 0xFF :: Bytes.ofString " x5."

/-- A line with a name that is empty and, behind it, another one that is not in the table. -/
def nowhereLine : Bytes := Bytes.ofString "@a @-@b2"

/-- References close together, and one without a name. -/
theorem substitute_decides_crowdedLine :
    (substitute crowdedTable crowdedLine = .ok crowdedFilled ∧ mark ∉ crowdedFilled ∧
      crowdedFilled.words.length = crowdedLine.words.length) ∧
    (unknown? crowdedTable nowhereLine = some [] ∧
      substitute crowdedTable nowhereLine = .error (.labelUnknown [])) ∧
    (Label.check (Bytes.ofString "b1") = .ok () ∧
      names crowdedLine = ["a", "b1", "a"].map Bytes.ofString) := by
  have hfilled : substitute crowdedTable crowdedLine = .ok crowdedFilled := by decide +kernel
  have hunknown : unknown? crowdedTable nowhereLine = some [] := by decide
  have hcheck : Label.check (Bytes.ofString "b1") = .ok () := by decide
  obtain ⟨-, -, hafter, -, hname⟩ := substitute_decides crowdedTable crowdedLine
  obtain ⟨-, hclean, -, hwords⟩ := hafter crowdedFilled hfilled
  have hrefused := (substitute_decides crowdedTable nowhereLine).2.1 (.labelUnknown [])
  refine ⟨⟨hfilled, hclean, hwords⟩, ⟨hunknown, hrefused.mpr ⟨[], hunknown, rfl⟩⟩, hcheck, ?_⟩
  have hstop : ∀ b ∈ (','.toUInt8 :: 0xFF :: Bytes.ofString " x@a.").head?, isWord b = false := by
    intro b hb
    cases hb
    decide
  exact (hname (Bytes.ofString "@a") (Bytes.ofString "b1") _ hcheck hstop (by decide)).1

end Reference

end TwoPass
