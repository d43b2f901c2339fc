import TwoPass.Proofs.Source.Operands
import TwoPass.Proofs.Source.Statements
import TwoPass.Proofs.Text.Trimming

/-!
# Names — the references of a text under other names

A renaming maps identifiers to identifiers.  It is applied to the names of references and to
nothing else (`Reference.rename`), which is one more way to rewrite a text: words, blanks and
everything that decides what a statement is stay as they are.  With the names of the label table
changed in the same way, the addresses that are filled in are the same (`substitute_rename`),
provided that different names stay different.
-/

namespace TwoPass

open Bytes

namespace Label

/-- The names that labels can have. -/
abbrev Name := { name : Bytes // isIdentifier name = true }

/-- A text under another name, if it is one. -/
def rename (r : Name → Name) (text : Bytes) : Bytes :=
  if h : isIdentifier text = true then (r ⟨text, h⟩).val else text

variable (r : Name → Name)

/-- A name stays a name, and any other text what it was. -/
theorem isIdentifier_rename (text : Bytes) : isIdentifier (rename r text) = isIdentifier text := by
  rw [rename]
  split
  · rename_i h
    rw [h]
    exact (r ⟨text, h⟩).property
  · rfl

variable {r} in
/-- Different texts stay different. -/
theorem rename_injective (hr : Function.Injective r) : Function.Injective (rename r) := by
  intro s t h
  have hboth : isIdentifier s = isIdentifier t := by
    rw [← isIdentifier_rename r s, h, isIdentifier_rename]
  by_cases hs : isIdentifier s = true
  · have ht : isIdentifier t = true := hboth ▸ hs
    rw [rename, dif_pos hs, rename, dif_pos ht] at h
    exact congrArg Subtype.val (hr (Subtype.ext h))
  · have ht : ¬ isIdentifier t = true := hboth ▸ hs
    rwa [rename, dif_neg hs, rename, dif_neg ht] at h

/-- A name is written with word characters. -/
theorem isWord_of_isIdentifier {name : Bytes} (h : isIdentifier name = true) :
    ∀ b ∈ name, isWord b = true := by
  cases name with
  | nil => nofun
  | cons b name =>
      rw [isIdentifier, Bool.and_eq_true] at h
      exact List.all_eq_true.mp h.2

theorem isWord_rename {text : Bytes} (h : ∀ b ∈ text, isWord b = true) :
    ∀ b ∈ rename r text, isWord b = true := by
  rw [rename]
  split
  · exact isWord_of_isIdentifier (r _).property
  · exact h

end Label

namespace Reference

variable (r : Label.Name → Label.Name)

/-- A part of a text under another name. -/
def Piece.rename : Piece → Piece
  | verbatim byte => verbatim byte
  | label name => label (Label.rename r name)

/-- A text with other names in its references. -/
def rename (text : Bytes) : Bytes := (pieces text).flatMap fun piece => (piece.rename r).text

@[simp] theorem rename_nil : rename r [] = [] := rfl

theorem rename_cons {b : UInt8} (h : b ≠ mark) (s : Bytes) : rename r (b :: s) = b :: rename r s := by
  rw [rename, pieces_cons h]
  rfl

/-- What has no mark is kept in front of the rest. -/
theorem rename_append {c : Bytes} (h : mark ∉ c) (s : Bytes) :
    rename r (c ++ s) = c ++ rename r s := by
  induction c with
  | nil => rfl
  | cons b c ih =>
      have hb : b ≠ mark := (List.ne_of_not_mem_cons h).symm
      rw [List.cons_append, rename_cons r hb, ih (List.not_mem_of_not_mem_cons h)]
      rfl

/-- A text without a mark is kept. -/
theorem rename_of_not_mem {c : Bytes} (h : mark ∉ c) : rename r c = c := by
  have happ := rename_append r h []
  rwa [rename_nil, List.append_nil] at happ

/-- A reference in front of a text that does not prolong its name. -/
theorem rename_reference {name s : Bytes} (hname : ∀ b ∈ name, isWord b = true)
    (hs : ∀ b ∈ s.head?, isWord b = false) :
    rename r (mark :: name ++ s) = mark :: Label.rename r name ++ rename r s := by
  obtain ⟨htake, hdrop⟩ := takeWhile_name hname hs
  rw [List.cons_append, rename, pieces_mark_eq, htake, hdrop]
  rfl

/-- A reference to another name. -/
def Renames (name out : Bytes) : Prop := out = mark :: Label.rename r name

theorem isPlainly_renames : IsPlainly (Renames r) := by
  rintro name out hname rfl
  exact ⟨List.cons_ne_nil _ _, isPlain_of_mem_reference (Label.isWord_rename r hname)⟩

/-- Renaming rewrites references. -/
theorem rewrites_iff {s s' : Bytes} : Rewrites (Renames r) s s' ↔ s' = rename r s := by
  constructor
  · intro h
    induction h with
    | verbatim hc => exact (rename_of_not_mem r hc).symm
    | reference hc hname hstop hout _ ih =>
        cases hout
        rw [rename_append r hc, rename_reference r hname hstop, ih]
  · rintro rfl
    induction s using induction_on with
    | verbatim c hc =>
        rw [rename_of_not_mem r hc]
        exact .verbatim hc
    | reference c name s hc hname hstop ih =>
        rw [rename_append r hc, rename_reference r hname hstop]
        exact .reference hc hname hstop rfl ih

theorem rewrites_rename (s : Bytes) : Rewrites (Renames r) s (rename r s) := (rewrites_iff r).mpr rfl

/-- A text with a mark keeps its first one and what is in front of it. -/
theorem exists_rename_of_mem {s : Bytes} (h : mark ∈ s) :
    ∃ c rest renamed, s = c ++ mark :: rest ∧ rename r s = c ++ mark :: renamed := by
  obtain ⟨c, rest, rfl, hc⟩ := List.eq_append_cons_of_mem h
  refine ⟨c, rest, Label.rename r (rest.takeWhile isWord) ++ rename r (rest.dropWhile isWord),
    rfl, ?_⟩
  rw [rename_append r hc, rename, pieces_mark_eq]
  rfl

/-- A text starts with the same byte, be it that of a reference or another. -/
theorem head?_rename (s : Bytes) : (rename r s).head? = s.head? := by
  by_cases hmark : mark ∈ s
  · obtain ⟨c, rest, renamed, rfl, hrenamed⟩ := exists_rename_of_mem r hmark
    rw [hrenamed, List.head?_append, List.head?_append]
    rfl
  · rw [rename_of_not_mem r hmark]

/-- Marks stay where they are references. -/
theorem mark_mem_rename {s : Bytes} : mark ∈ rename r s ↔ mark ∈ s := by
  by_cases hmark : mark ∈ s
  · obtain ⟨c, rest, renamed, -, hrenamed⟩ := exists_rename_of_mem r hmark
    rw [hrenamed]
    exact iff_of_true (List.mem_append_right _ List.mem_cons_self) hmark
  · rw [rename_of_not_mem r hmark]

/-- A byte that no reference is written with divides a text before and after. -/
theorem rename_divided {b : UInt8} (hb : isPlain b = false) (s t : Bytes) :
    rename r (s ++ b :: t) = rename r s ++ b :: rename r t := by
  have hmark : b ≠ mark := by
    rintro rfl
    exact absurd hb (by decide)
  induction s using induction_on with
  | verbatim c hc => rw [rename_append r hc, rename_cons r hmark, rename_of_not_mem r hc]
  | reference c name s hc hname hstop ih =>
      -- a name that goes to the end of the first text ends at the byte between
      have hstop' : ∀ x ∈ (s ++ b :: t).head?, isWord x = false := by
        intro x hx
        cases s with
        | nil =>
            cases hx
            cases hword : isWord b with
            | false => rfl
            | true => exact absurd hb (isPlain_of_isWord hword ▸ Bool.noConfusion)
        | cons y s => exact hstop x hx
      rw [List.append_assoc, rename_append r hc, List.append_assoc, rename_reference r hname hstop',
        ih, rename_append r hc, rename_reference r hname hstop, List.append_assoc,
        List.append_assoc]

/-- Such a byte is neither brought in nor lost. -/
theorem mem_rename {b : UInt8} (hb : isPlain b = false) {s : Bytes} : b ∈ rename r s ↔ b ∈ s := by
  have hplain : ∀ {name : Bytes}, (∀ x ∈ name, isWord x = true) → b ∉ mark :: name := by
    intro name hname hmem
    rw [isPlain_of_mem_reference hname b hmem] at hb
    exact Bool.noConfusion hb
  induction s using induction_on with
  | verbatim c hc => rw [rename_of_not_mem r hc]
  | reference c name s hc hname hstop ih =>
      rw [rename_append r hc, rename_reference r hname hstop, List.mem_append, List.mem_append,
        List.mem_append, List.mem_append, or_iff_right (hplain hname),
        or_iff_right (hplain (Label.isWord_rename r hname))]
      exact or_congr_right ih

/-- A text without marks in front of a mark. -/
theorem prefix_before_mark {k c s : Bytes} (hk : mark ∉ k) : k <+: c ++ mark :: s ↔ k <+: c := by
  constructor
  · intro h
    rcases List.prefix_or_prefix_of_prefix h (List.prefix_append c (mark :: s)) with hkc | ⟨u, rfl⟩
    · exact hkc
    · rw [List.prefix_append_right_inj] at h
      cases u with
      | nil => exact ⟨[], by rw [List.append_nil, List.append_nil]⟩
      | cons b u =>
          cases (List.cons_prefix_cons.mp h).1
          exact absurd (List.mem_append_right _ List.mem_cons_self) hk
  · intro h
    exact h.trans (List.prefix_append c _)

/-- A text starts with the same bytes up to its first mark. -/
theorem prefix_rename {k s : Bytes} (hk : mark ∉ k) : k <+: rename r s ↔ k <+: s := by
  by_cases hmark : mark ∈ s
  · obtain ⟨c, rest, renamed, rfl, hrenamed⟩ := exists_rename_of_mem r hmark
    rw [hrenamed, prefix_before_mark hk, prefix_before_mark hk]
  · rw [rename_of_not_mem r hmark]

/-! ## Words and blanks -/

theorem isSolid_of_isPlain {a : Bytes} (hne : a ≠ []) (h : ∀ b ∈ a, isPlain b = true) :
    IsSolid a :=
  ⟨hne, fun b hb => ⟨isAscii_of_isPlain b (h b hb), isBlank_of_isPlain b (h b hb)⟩⟩

namespace Rewrites

variable {P : Bytes → Bytes → Prop} {s s' : Bytes}

/-- Blanks in front of a text are no part of its references. -/
theorem trimStart (hP : IsPlainly P) (h : Rewrites P s s') :
    Rewrites P (trimStart s) (trimStart s') := by
  have hclean : ∀ {c : Bytes}, mark ∉ c → mark ∉ Bytes.trimStart c := by
    intro c hc hmem
    rw [← indent_append_trimStart c] at hc
    exact hc (List.mem_append_right _ hmem)
  cases h with
  | verbatim hc => exact .verbatim (hclean hc)
  | reference hc hname hstop hout hrest =>
      obtain ⟨hne, hplain⟩ := hP _ _ hname hout
      have hmark := isSolid_of_isPlain (List.cons_ne_nil _ _) (isPlain_of_mem_reference hname)
      rw [trimStart_append hmark, trimStart_append (isSolid_of_isPlain hne hplain)]
      exact .reference (hclean hc) hname hstop hout hrest

/-- And neither are blanks behind it. -/
theorem trimEnd (hP : IsPlainly P) (h : Rewrites P s s') :
    Rewrites P (trimEnd s) (trimEnd s') := by
  induction h with
  | @verbatim c hc =>
      obtain ⟨ending, hcut⟩ := exists_trimEnd_append c
      refine .verbatim fun hmem => ?_
      rw [hcut] at hc
      exact hc (List.mem_append_left _ hmem)
  | @reference c name out s s' hc hname hstop hout hrest ih =>
      obtain ⟨hne, hplain⟩ := hP _ _ hname hout
      have hmark := isSolid_of_isPlain (List.cons_ne_nil _ _) (isPlain_of_mem_reference hname)
      rw [trimEnd_append hmark, trimEnd_append (isSolid_of_isPlain hne hplain)]
      refine .reference hc hname ?_ hout ih
      obtain ⟨ending, hcut⟩ := exists_trimEnd_append s
      intro b hb
      refine hstop b ?_
      rw [hcut, List.head?_append, Option.mem_def.mp hb]
      rfl

end Rewrites

theorem trimEnd_rename (s : Bytes) : (rename r s).trimEnd = rename r s.trimEnd :=
  (rewrites_iff r).mp ((rewrites_rename r s).trimEnd (isPlainly_renames r))

theorem trim_rename (s : Bytes) : (rename r s).trim = rename r s.trim := by
  rw [trim_eq_trimEnd, trim_eq_trimEnd, ← trimEnd_rename]
  have hstart := (rewrites_rename r s).trimStart (isPlainly_renames r)
  rw [(rewrites_iff r).mp hstart]

/-- The words of a text are renamed one by one. -/
theorem words_rename (s : Bytes) : (rename r s).words = s.words.map (rename r) := by
  have hwords : List.Forall₂ (Rewrites (Renames r)) s.words (rename r s).words :=
    (rewrites_rename r s).wordsBy isBlank_of_isPlain (isPlainly_renames r)
  generalize s.words = ws, (rename r s).words = ws' at hwords
  induction hwords with
  | nil => rfl
  | cons hw _ ih => rw [List.map_cons, ← ih, (rewrites_iff r).mp hw]

end Reference

/-! ## Label tables -/

/-- A label table with other names. -/
def LabelTable.rename (r : Label.Name → Label.Name) (t : LabelTable) : LabelTable :=
  ⟨t.entries.map fun e => { e with name := Label.rename r e.name }⟩

section Tables

variable {r : Label.Name → Label.Name} (hr : Function.Injective r)

include hr

namespace LabelTable

/-- A renamed table has the same symbol under the new name. -/
theorem find?_rename (t : LabelTable) (name : Bytes) :
    (t.rename r).find? (Label.rename r name) = t.find? name := by
  have hsame : ∀ e : SymbolEntry,
      decide (Label.rename r e.name = Label.rename r name) = decide (e.name = name) := by
    intro e
    rw [decide_eq_decide]
    exact (Label.rename_injective hr).eq_iff
  rw [find?, find?, rename, List.find?_map, Option.map_map]
  show (t.entries.find? fun e => decide (Label.rename r e.name = Label.rename r name)).map _ = _
  rw [funext hsame]
  rfl

theorem address?_rename (t : LabelTable) (name : Bytes) :
    (t.rename r).address? (Label.rename r name) = t.address? name := by
  rw [address?, address?, find?_rename hr]

/-- A name that is defined again is the same name. -/
theorem rename_insert (t : LabelTable) (name : Bytes) (symbol : Symbol) :
    (t.insert name symbol).rename r = (t.rename r).insert (Label.rename r name) symbol := by
  have hsame : ∀ e : SymbolEntry,
      decide (Label.rename r e.name ≠ Label.rename r name) = decide (e.name ≠ name) := by
    intro e
    rw [decide_eq_decide]
    exact (Label.rename_injective hr).ne_iff
  rw [insert, insert, rename, rename, List.map_cons, List.filter_map]
  show _ = LabelTable.mk (_ :: (t.entries.filter fun e =>
    decide (Label.rename r e.name ≠ Label.rename r name)).map _)
  rw [funext hsame]

/-- A table is renamed entry by entry. -/
theorem rename_ofList (entries : List SymbolEntry) :
    (ofList entries).rename r =
      ofList (entries.map fun e => { e with name := Label.rename r e.name }) := by
  rw [ofList, ofList, List.foldl_map]
  refine (List.foldl_hom (rename r) fun t (e : SymbolEntry) => ?_).symm
  exact (rename_insert hr t e.name e.symbol).symm

end LabelTable

/-- **NAMES CARRY NO MEANING.**  A text and a table under other names give the same text. -/
theorem Reference.substitute_rename {labels : LabelTable} {s out : Bytes}
    (h : substitute labels s = .ok out) :
    substitute (labels.rename r) (rename r s) = .ok out := by
  rw [substitute_eq_ok] at h ⊢
  induction h with
  | verbatim hc =>
      rw [rename_of_not_mem r hc]
      exact .verbatim hc
  | reference hc hname hstop hout _ ih =>
      rw [rename_append r hc, rename_reference r hname hstop]
      refine .reference hc (Label.isWord_rename r hname) ?_ ?_ ih
      · rw [head?_rename]
        exact hstop
      · obtain ⟨a, ha, rfl⟩ := hout
        exact ⟨a, (LabelTable.address?_rename hr labels _).trans ha, rfl⟩

end Tables

/-! ## Sizes -/

/-- A directive that is renamed takes up as many bytes. -/
theorem Directive.size_rename (r : Label.Name → Label.Name) {text : Bytes} {n : Nat}
    (htrim : Trimmed text) (hverb : Emission.isVerbatim false text ≠ true)
    (h : size text = .ok n) : size (Reference.rename r text) = .ok n := by
  obtain ⟨⟨k, values⟩, hsplit, -⟩ := bind_eq_ok.mp h
  obtain ⟨values', hsplit', hvalues⟩ :=
    split_rewrites (Reference.isPlainly_renames r) hsplit (Reference.rewrites_rename r text)
  rw [size_of_split hsplit] at h
  rw [size_of_split hsplit', ← h]
  cases k with
  | array => exact congrArg Except.ok hvalues.length_eq.symm
  | asciiz => exact absurd (htrim.isPrefixOf (split_eq_ok.mp hsplit)) hverb
  | _ => rfl

namespace Layout

open Reference

/-- No reference is taken for `movi`. -/
theorem mark_notMem_of_spellsMovi {text w : Bytes} {ws : List Bytes} (h : SpellsMovi text)
    (hwords : text.words = w :: ws) : mark ∉ w := by
  have hmnemonic : mnemonic text = w.dropEndWhile (· == ','.toUInt8) := by
    rw [mnemonic, hwords]
    rfl
  obtain ⟨commas, hw, hcommas⟩ := dropEndWhile_append (· == ','.toUInt8) w
  rw [hw, List.mem_append]
  rintro (hmem | hmem)
  · rw [← hmnemonic] at hmem
    exact (isPlain_of_isMoviByte mark (isMoviByte_of_foldAscii? h mark hmem)).2 rfl
  · exact absurd (hcommas mark hmem) (by decide)

/-- Renaming neither hides a mnemonic nor makes one. -/
theorem spellsMovi_rename (r : Label.Name → Label.Name) (text : Bytes) :
    SpellsMovi (rename r text) ↔ SpellsMovi text := by
  have hrenamed := words_rename r text
  cases hwords : text.words with
  | nil =>
      rw [hwords] at hrenamed
      rw [SpellsMovi, SpellsMovi, mnemonic, mnemonic, hwords, hrenamed]
      rfl
  | cons w ws =>
      rw [hwords, List.map_cons] at hrenamed
      by_cases hmark : mark ∈ w
      · constructor
        · intro h
          exact absurd ((mark_mem_rename r).mpr hmark) (mark_notMem_of_spellsMovi h hrenamed)
        · intro h
          exact absurd hmark (mark_notMem_of_spellsMovi h hwords)
      · rw [rename_of_not_mem r hmark] at hrenamed
        rw [SpellsMovi, SpellsMovi, mnemonic, mnemonic, hwords, hrenamed]
        rfl

/-- A line of code that is renamed is given the same size. -/
theorem codeSize_rename (r : Label.Name → Label.Name) (text : Bytes) :
    codeSize (rename r text) = codeSize text := by
  rw [codeSize_eq, codeSize_eq]
  exact if_congr (spellsMovi_rename r text) rfl rfl

end Layout

end TwoPass
