import TwoPass.Proofs.Success
import TwoPass.Proofs.Text.Numbers
import TwoPass.Proofs.Text.Words
import TwoPass.Source.Reference

/-!
# References — what is written in their place keeps the words of a line apart

A line is cut into pieces from the right.  From the left, substitution copies every byte up
to the first mark, writes the address of the longest name behind it, and goes on behind the
name (`substitute_cons`, `substitute_mark`).  `Rewrites P` says the same without a direction,
and of any way to write a reference: every name is replaced by a text that `P` gives it, and
all other bytes are kept.  Substitution is one such rewriting (`substitute_eq_ok`).

An address is written in ASCII without separators, and so is a reference.  Rewriting a line is
therefore the same as rewriting each of its words (`Rewrites.wordsBy`): no word is split, joined
or lost.
-/

namespace TwoPass

namespace Reference

open Bytes

/-- The bytes that references and addresses are written with. -/
def isPlain (b : UInt8) : Bool := isWord b || b == mark || b == '-'.toUInt8

theorem isWord_mark : isWord mark = false := by decide

/-- References are written in ASCII. -/
theorem isAscii_of_isPlain (b : UInt8) : isPlain b = true → isAscii b = true := by
  revert b
  exact forall_byte (by decide +kernel)

theorem isBlank_of_isPlain (b : UInt8) : isPlain b = true → Glyph.isBlank (.ascii b) = false := by
  revert b
  exact forall_byte (by decide +kernel)

theorem isPlain_of_isWord {b : UInt8} (h : isWord b = true) : isPlain b = true := by
  rw [isPlain, h]
  rfl

/-- The numbers that references stand for are written with plain bytes, too. -/
theorem isPlain_of_mem_decimal {a : Int} : ∀ b ∈ decimal a, isPlain b = true := by
  intro b hb
  rcases mem_decimal b hb with h | rfl
  · refine isPlain_of_isWord ?_
    rw [isWord, h, Bool.or_true, Bool.true_or]
  · decide

/-! ## Substitution from the left -/

section Pieces

variable (labels : LabelTable)

theorem pieces_mark (s : Bytes) :
    pieces (mark :: s) = Piece.push mark (pieces s) := rfl

/-- Every other byte stands for itself, for now. -/
theorem pieces_cons {b : UInt8} (h : b ≠ mark) (s : Bytes) :
    pieces (b :: s) = .verbatim b :: pieces s := if_neg h

theorem nameByte?_verbatim (b : UInt8) :
    (Piece.verbatim b).nameByte?.isSome = isWord b := by
  rw [Piece.nameByte?]
  cases isWord b with
  | true => rfl
  | false => rfl

/-- The name bytes in front of a line that has been cut are those of the line. -/
theorem takeWhile_pieces (s : Bytes) :
    (pieces s).takeWhile (fun p => p.nameByte?.isSome) = (s.takeWhile isWord).map .verbatim := by
  induction s with
  | nil => rfl
  | cons b s ih =>
      by_cases hb : b = mark
      · subst hb
        rw [List.takeWhile_cons_of_neg (by rw [isWord_mark]; exact Bool.false_ne_true)]
        rfl
      · rw [pieces_cons hb, List.takeWhile_cons, nameByte?_verbatim, List.takeWhile_cons, ih]
        cases isWord b with
        | true => rfl
        | false => rfl

/-- Behind a name, the pieces are those of what is behind it. -/
theorem dropWhile_pieces (s : Bytes) :
    (pieces s).dropWhile (fun p => p.nameByte?.isSome) = pieces (s.dropWhile isWord) := by
  induction s with
  | nil => rfl
  | cons b s ih =>
      by_cases hb : b = mark
      · subst hb
        rw [List.dropWhile_cons_of_neg (by rw [isWord_mark]; exact Bool.false_ne_true)]
        rfl
      · rw [pieces_cons hb, List.dropWhile_cons, nameByte?_verbatim, List.dropWhile_cons, ih]
        cases isWord b with
        | true => rfl
        | false =>
            rw [if_neg Bool.false_ne_true, if_neg Bool.false_ne_true, pieces_cons hb]

theorem filterMap_nameByte? {s : Bytes} (h : ∀ b ∈ s, isWord b = true) :
    (s.map Piece.verbatim).filterMap Piece.nameByte? = s := by
  induction s with
  | nil => rfl
  | cons b s ih =>
      have hb : (Piece.verbatim b).nameByte? = some b := if_pos (h b List.mem_cons_self)
      rw [List.map_cons, List.filterMap_cons_some hb,
        ih (fun c hc => h c (List.mem_cons_of_mem _ hc))]

/-- A mark takes up the longest name behind it. -/
theorem pieces_mark_eq (s : Bytes) :
    pieces (mark :: s) = .label (s.takeWhile isWord) :: pieces (s.dropWhile isWord) := by
  rw [pieces_mark, Piece.push, if_pos rfl, takeWhile_pieces, dropWhile_pieces,
    filterMap_nameByte? (fun b hb => List.mem_takeWhile_imp hb)]

/-- References are filled in piece by piece. -/
theorem substitute_eq (s : Bytes) :
    substitute labels s = ((pieces s).mapM (Piece.resolve labels)).map List.flatten := by
  rw [substitute]
  cases (pieces s).mapM (Piece.resolve labels) with
  | error f => rfl
  | ok ps => rfl

@[simp] theorem substitute_nil : substitute labels [] = .ok [] := rfl

/-- The first piece of a line is substituted in front of the rest. -/
theorem mapM_resolve_cons (p : Piece) (ps : List Piece) :
    ((p :: ps).mapM (Piece.resolve labels)).map List.flatten =
      (p.resolve labels).bind fun out =>
        ((ps.mapM (Piece.resolve labels)).map List.flatten).map (out ++ ·) := by
  rw [List.mapM_cons]
  cases p.resolve labels with
  | error f => rfl
  | ok out =>
      cases ps.mapM (Piece.resolve labels) with
      | error f => rfl
      | ok outs => rfl

/-- A byte that is no mark is copied. -/
theorem substitute_cons {b : UInt8} (h : b ≠ mark) (s : Bytes) :
    substitute labels (b :: s) = (substitute labels s).map (b :: ·) := by
  rw [substitute_eq, substitute_eq, pieces_cons h, mapM_resolve_cons]
  rfl

/-- A mark and the longest name behind it are replaced by an address. -/
theorem substitute_mark (s : Bytes) :
    substitute labels (mark :: s) =
      match labels.address? (s.takeWhile isWord) with
      | some a => (substitute labels (s.dropWhile isWord)).map (decimal a ++ ·)
      | none => .error (.labelUnknown (s.takeWhile isWord)) := by
  rw [substitute_eq, substitute_eq, pieces_mark_eq, mapM_resolve_cons, Piece.resolve]
  cases labels.address? (s.takeWhile isWord) with
  | none => rfl
  | some a => rfl

end Pieces

variable {labels : LabelTable}

/-- Bytes in front of the first mark are copied. -/
theorem substitute_append {c : Bytes} (h : mark ∉ c) (s : Bytes) :
    substitute labels (c ++ s) = (substitute labels s).map (c ++ ·) := by
  induction c with
  | nil =>
      cases hs : substitute labels s with
      | error f => rw [List.nil_append, hs]; rfl
      | ok out => rw [List.nil_append, hs]; rfl
  | cons b c ih =>
      have hb : b ≠ mark := (List.ne_of_not_mem_cons h).symm
      rw [List.cons_append, substitute_cons labels hb, ih (List.not_mem_of_not_mem_cons h)]
      cases substitute labels s with
      | error f => rfl
      | ok out => rfl

/-- A text without marks is left as it is. -/
theorem substitute_of_not_mem {c : Bytes} (h : mark ∉ c) : substitute labels c = .ok c := by
  have happ : substitute labels (c ++ []) = (substitute labels []).map (c ++ ·) :=
    substitute_append h []
  rwa [List.append_nil, substitute_nil, Except.map, List.append_nil] at happ

/-- Where the name behind a mark stops. -/
theorem takeWhile_name {name s : Bytes} (hname : ∀ b ∈ name, isWord b = true)
    (hs : ∀ b ∈ s.head?, isWord b = false) :
    (name ++ s).takeWhile isWord = name ∧ (name ++ s).dropWhile isWord = s := by
  have hstop : s.takeWhile isWord = [] ∧ s.dropWhile isWord = s := by
    cases s with
    | nil => exact ⟨rfl, rfl⟩
    | cons b s =>
        have hb : ¬ isWord b = true := by rw [hs b rfl]; exact Bool.false_ne_true
        exact ⟨List.takeWhile_cons_of_neg hb, List.dropWhile_cons_of_neg hb⟩
  rw [List.takeWhile_append_of_pos hname, List.dropWhile_append_of_pos hname, hstop.1, hstop.2,
    List.append_nil]
  exact ⟨rfl, rfl⟩

/-- A reference in front of a text that does not prolong its name. -/
theorem substitute_reference {name s out : Bytes} {a : Int} (hname : ∀ b ∈ name, isWord b = true)
    (hs : ∀ b ∈ s.head?, isWord b = false) (ha : labels.address? name = some a)
    (h : substitute labels s = .ok out) :
    substitute labels (mark :: name ++ s) = .ok (decimal a ++ out) := by
  obtain ⟨htake, hdrop⟩ := takeWhile_name hname hs
  rw [List.cons_append, substitute_mark, htake, hdrop, ha, h]
  rfl

/-- A reference that is substituted has an address. -/
theorem reference_of_substitute {name s out : Bytes} (hname : ∀ b ∈ name, isWord b = true)
    (hs : ∀ b ∈ s.head?, isWord b = false) (h : substitute labels (mark :: name ++ s) = .ok out) :
    ∃ a out', labels.address? name = some a ∧ substitute labels s = .ok out' ∧
      out = decimal a ++ out' := by
  obtain ⟨htake, hdrop⟩ := takeWhile_name hname hs
  rw [List.cons_append, substitute_mark, htake, hdrop] at h
  cases ha : labels.address? name with
  | none =>
      rw [ha] at h
      cases h
  | some a =>
      rw [ha] at h
      obtain ⟨out', hout, rfl⟩ := map_eq_ok.mp h
      exact ⟨a, out', rfl, hout, rfl⟩

/-- What is proved of texts without marks, and of a text with a reference in front of one that it
    holds of, holds of every text. -/
theorem induction_on {motive : Bytes → Prop} (s : Bytes)
    (verbatim : ∀ c, mark ∉ c → motive c)
    (reference : ∀ c name s, mark ∉ c → (∀ b ∈ name, isWord b = true) →
      (∀ b ∈ s.head?, isWord b = false) → motive s → motive (c ++ (mark :: name ++ s))) :
    motive s := by
  -- on the length: the rest behind a reference may be shorter by many bytes
  induction hn : s.length using Nat.strong_induction_on generalizing s with
  | _ n ih =>
      by_cases hmark : mark ∈ s
      · obtain ⟨c, r, rfl, hc⟩ := List.eq_append_cons_of_mem hmark
        have hcut : r.takeWhile isWord ++ r.dropWhile isWord = r := List.takeWhile_append_dropWhile
        have hshorter : (r.dropWhile isWord).length < n := by
          have hle := (List.dropWhile_sublist isWord (l := r)).length_le
          rw [← hn, List.length_append, List.length_cons]
          omega
        have hrest : motive (r.dropWhile isWord) := ih _ hshorter _ rfl
        rw [← hcut]
        refine reference c _ _ hc ?_ ?_ hrest
        · intro b hb
          exact List.mem_takeWhile_imp hb
        · intro b hb
          have hhead := List.head?_dropWhile_not isWord r
          rw [Option.mem_def.mp hb] at hhead
          exact hhead
      · exact verbatim s hmark

/-! ## Rewriting -/

/-- A line with its references written otherwise: a name is replaced by a text that it is given,
    and every other byte is kept. -/
inductive Rewrites (P : Bytes → Bytes → Prop) : Bytes → Bytes → Prop
  | verbatim {c : Bytes} (hc : mark ∉ c) : Rewrites P c c
  | reference {c name out s s' : Bytes} (hc : mark ∉ c) (hname : ∀ b ∈ name, isWord b = true)
      (hstop : ∀ b ∈ s.head?, isWord b = false) (hout : P name out) (hrest : Rewrites P s s') :
      Rewrites P (c ++ (mark :: name ++ s)) (c ++ (out ++ s'))

/-- A text that stands for a name: the name's address in decimal. -/
def StandsFor (labels : LabelTable) (name out : Bytes) : Prop :=
  ∃ a, labels.address? name = some a ∧ out = decimal a

/-- Substitution writes addresses. -/
theorem substitute_eq_ok {s out : Bytes} :
    substitute labels s = .ok out ↔ Rewrites (StandsFor labels) s out := by
  constructor
  · induction s using induction_on generalizing out with
    | verbatim c hc =>
        intro h
        rw [substitute_of_not_mem hc] at h
        cases h
        exact .verbatim hc
    | reference c name s hc hname hstop ih =>
        intro h
        rw [substitute_append hc] at h
        obtain ⟨out₁, h₁, rfl⟩ := map_eq_ok.mp h
        obtain ⟨a, out', ha, hs, rfl⟩ := reference_of_substitute hname hstop h₁
        exact .reference hc hname hstop ⟨a, ha, rfl⟩ (ih hs)
  · -- the rewriting has the shape of the text, reference by reference
    intro h
    induction h with
    | verbatim hc => exact substitute_of_not_mem hc
    | reference hc hname hstop hout _ ih =>
        obtain ⟨a, ha, rfl⟩ := hout
        rw [substitute_append hc, substitute_reference hname hstop ha ih]
        rfl

/-- What has no room for an address after substitution had no reference before. -/
theorem eq_of_substitute {s out : Bytes} (h : substitute labels s = .ok out)
    (hout : ∀ a, ∃ b ∈ decimal a, b ∉ out) : out = s := by
  cases substitute_eq_ok.mp h with
  | verbatim _ => rfl
  | @reference c name text s s' _ _ _ htext _ =>
      obtain ⟨a, -, rfl⟩ := htext
      obtain ⟨b, hb, hnone⟩ := hout a
      exact absurd (List.mem_append_right c (List.mem_append_left s' hb)) hnone

namespace Rewrites

variable {P Q : Bytes → Bytes → Prop} {s s' : Bytes}

/-- A rewriting may be replaced by one that writes the same. -/
theorem imp (hPQ : ∀ name out, P name out → Q name out) (h : Rewrites P s s') :
    Rewrites Q s s' := by
  induction h with
  | verbatim hc => exact .verbatim hc
  | reference hc hname hstop hout _ ih => exact .reference hc hname hstop (hPQ _ _ hout) ih

/-- Bytes in front of the first mark are kept. -/
theorem append {c : Bytes} (hc : mark ∉ c) (h : Rewrites P s s') :
    Rewrites P (c ++ s) (c ++ s') := by
  cases h with
  | verbatim hs =>
      refine .verbatim fun hmem => ?_
      exact (List.mem_append.mp hmem).elim hc hs
  | @reference d name out s s' hd hname hstop hout hrest =>
      rw [← List.append_assoc c d, ← List.append_assoc c d]
      refine .reference (fun hmem => ?_) hname hstop hout hrest
      exact (List.mem_append.mp hmem).elim hc hd

/-- A text without marks is left as it is. -/
theorem eq_of_not_mem (h : Rewrites P s s') (hs : mark ∉ s) : s' = s := by
  cases h with
  | verbatim _ => rfl
  | reference => exact absurd (List.mem_append_right _ List.mem_cons_self) hs

end Rewrites

/-! ## Words -/

/-- Words found before and after rewriting: each is the rewriting of the other, and either both
    lists start the text or neither does. -/
inductive Agree (P : Bytes → Bytes → Prop) : List Bytes × Bool → List Bytes × Bool → Prop where
  | apart {ws ws' : List Bytes} :
      List.Forall₂ (Rewrites P) ws ws' → Agree P (ws, false) (ws', false)
  | touching {w w' : Bytes} {ws ws' : List Bytes} :
      Rewrites P w w' → List.Forall₂ (Rewrites P) ws ws' → Agree P (w :: ws, true) (w' :: ws', true)

variable {P : Bytes → Bytes → Prop} {separator : Glyph → Bool} {st st' : List Bytes × Bool}

/-- Where two scans agree, the words are rewritten one by one. -/
theorem Agree.words (h : Agree P st st') : List.Forall₂ (Rewrites P) st.1 st'.1 := by
  cases h with
  | apart hws => exact hws
  | touching hw hws => exact List.Forall₂.cons hw hws

/-- A run and what it is rewritten to join the words behind them alike. -/
theorem Agree.run {r r' : List Glyph} (hne : r ≠ []) (hne' : r' ≠ [])
    (hr : ∀ g ∈ r, separator g = false) (hr' : ∀ g ∈ r', separator g = false)
    (halone : Rewrites P (ofGlyphs r) (ofGlyphs r'))
    (hjoin : ∀ w w' ws, st = (w :: ws, true) → Rewrites P w w' →
      Rewrites P (ofGlyphs r ++ w) (ofGlyphs r' ++ w'))
    (h : Agree P st st') :
    Agree P (r.foldr (wordStep separator) st) (r'.foldr (wordStep separator) st') := by
  cases h with
  | apart hws =>
      rw [foldr_wordStep_run hne hr, foldr_wordStep_run hne' hr']
      exact Agree.touching halone hws
  | touching hw hws =>
      rw [foldr_wordStep_touching hr, foldr_wordStep_touching hr']
      exact Agree.touching (hjoin _ _ _ rfl hw) hws

/-- Glyphs without marks are kept, be they separators or not. -/
theorem Agree.verbatim {gs : List Glyph} (hgs : ∀ g ∈ gs, mark ∉ g.bytes) (h : Agree P st st') :
    Agree P (gs.foldr (wordStep separator) st) (gs.foldr (wordStep separator) st') := by
  induction gs with
  | nil => exact h
  | cons g gs ih =>
      have ih' := ih (fun x hx => hgs x (List.mem_cons_of_mem _ hx))
      have hg : mark ∉ ofGlyphs [g] := by
        rw [ofGlyphs_cons, ofGlyphs_nil, List.append_nil]
        exact hgs g List.mem_cons_self
      rw [List.foldr_cons, List.foldr_cons]
      cases hsep : separator g with
      | true =>
          rw [wordStep_separator hsep, wordStep_separator hsep]
          exact Agree.apart ih'.words
      | false =>
          have hall : ∀ x ∈ [g], separator x = false := by
            intro x hx
            rw [List.mem_singleton.mp hx]
            exact hsep
          -- a single glyph is a run of its own, that is kept as it is
          show Agree P ([g].foldr (wordStep separator) _) ([g].foldr (wordStep separator) _)
          refine Agree.run (List.cons_ne_nil _ _) (List.cons_ne_nil _ _) hall hall (.verbatim hg) ?_ ih'
          intro w w' ws _ hw
          exact hw.append hg

/-- The glyphs of a text without marks have none. -/
theorem mark_notMem_of_mem_glyphs {s : Bytes} (h : mark ∉ s) :
    ∀ g ∈ glyphs s, mark ∉ g.bytes := by
  intro g hg hmem
  rw [← ofGlyphs_glyphs s] at h
  exact h (List.mem_flatMap.mpr ⟨g, hg, hmem⟩)

/-- Plain text in front of a text is read byte by byte, and so is what stands before it. -/
theorem scan_append {a : Bytes} (hne : a ≠ []) (h : ∀ b ∈ a, isPlain b = true) (c s : Bytes) :
    scan separator (glyphs (c ++ (a ++ s))) =
      (glyphs c).foldr (wordStep separator)
        ((a.map Glyph.ascii).foldr (wordStep separator) (scan separator (glyphs s))) := by
  have hascii : ∀ b ∈ a, isAscii b = true := fun b hb => isAscii_of_isPlain b (h b hb)
  rw [glyphs_append c (startsGlyph_of_ascii hne hascii s), glyphs_ascii_append hascii, scan,
    List.foldr_append, List.foldr_append]
  rfl

theorem separator_map_ascii (hsep : ∀ b, isPlain b = true → separator (.ascii b) = false)
    {a : Bytes} (h : ∀ b ∈ a, isPlain b = true) :
    ∀ g ∈ a.map Glyph.ascii, separator g = false := by
  intro g hg
  obtain ⟨b, hb, rfl⟩ := List.mem_map.mp hg
  exact hsep b (h b hb)

/-- A way to write references in plain text, which is never empty. -/
def IsPlainly (P : Bytes → Bytes → Prop) : Prop :=
  ∀ name out, (∀ b ∈ name, isWord b = true) → P name out → out ≠ [] ∧ ∀ b ∈ out, isPlain b = true

/-- A number stands for a reference without being taken apart. -/
theorem isPlainly_standsFor (labels : LabelTable) : IsPlainly (StandsFor labels) := by
  rintro name out - ⟨a, -, rfl⟩
  exact ⟨decimal_ne_nil a, isPlain_of_mem_decimal⟩

theorem isPlain_of_mem_reference {name : Bytes} (hname : ∀ b ∈ name, isWord b = true) :
    ∀ b ∈ mark :: name, isPlain b = true := by
  intro b hb
  rcases List.mem_cons.mp hb with rfl | hb
  · decide
  · exact isPlain_of_isWord (hname b hb)

/-- Rewriting a line is rewriting each of its words, if nothing that references and what stands
    for them are written with separates words. -/
theorem Rewrites.scan (hsep : ∀ b, isPlain b = true → separator (.ascii b) = false)
    (hP : IsPlainly P) {s s' : Bytes} (h : Rewrites P s s') :
    Agree P (Bytes.scan separator (glyphs s)) (Bytes.scan separator (glyphs s')) := by
  induction h with
  | verbatim hc =>
      exact Agree.verbatim (mark_notMem_of_mem_glyphs hc) (Agree.apart List.Forall₂.nil)
  | @reference c name out s s' hc hname hstop hout hrest ih =>
      have hplain := isPlain_of_mem_reference hname
      obtain ⟨hne, hplain'⟩ := hP name out hname hout
      rw [scan_append (List.cons_ne_nil _ _) hplain, scan_append hne hplain']
      refine Agree.verbatim (mark_notMem_of_mem_glyphs hc) ?_
      refine Agree.run ?_ ?_ (separator_map_ascii hsep hplain) (separator_map_ascii hsep hplain')
        ?_ ?_ ih
      · exact List.cons_ne_nil _ _
      · exact fun he => hne (List.map_eq_nil_iff.mp he)
      · rw [ofGlyphs_map_ascii, ofGlyphs_map_ascii]
        have halone : Rewrites P ([] ++ (mark :: name ++ [])) ([] ++ (out ++ [])) :=
          .reference List.not_mem_nil hname nofun hout (.verbatim List.not_mem_nil)
        rwa [List.append_nil, List.append_nil] at halone
      · -- a word that the reference touches starts where the name stops
        intro w w' ws hst hw
        rw [ofGlyphs_map_ascii, ofGlyphs_map_ascii]
        refine .reference List.not_mem_nil hname ?_ hout hw
        rw [head?_of_scan hst]
        exact hstop

/-- **WORD BY WORD.**  The words of a rewritten line are the words of the line, each rewritten. -/
theorem Rewrites.wordsBy (hsep : ∀ b, isPlain b = true → separator (.ascii b) = false)
    (hP : IsPlainly P) {s s' : Bytes} (h : Rewrites P s s') :
    List.Forall₂ (Rewrites P) (Bytes.wordsBy separator s) (Bytes.wordsBy separator s') :=
  (h.scan hsep hP).words

/-- The words of a line with its references substituted are the words of the line, each with its
    references substituted. -/
theorem wordsBy_substitute (hsep : ∀ b, isPlain b = true → separator (.ascii b) = false)
    {s out : Bytes} (h : substitute labels s = .ok out) :
    List.Forall₂ (fun w w' => substitute labels w = .ok w') (wordsBy separator s)
      (wordsBy separator out) := by
  have hwords := (substitute_eq_ok.mp h).wordsBy hsep (isPlainly_standsFor labels)
  exact hwords.imp fun _ _ => substitute_eq_ok.mpr

end Reference

end TwoPass
