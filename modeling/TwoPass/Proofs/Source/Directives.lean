import TwoPass.Emission
import TwoPass.Proofs.Failure
import TwoPass.Proofs.Source.References

/-!
# Directives — the size foreseen is the size emitted

The first pass sizes a directive before its references are filled in, and the second reads
it afterwards.  Both see the same keyword and the same number of words behind it, because
references are filled in word by word; the text of `.asciiz`, whose length counts byte by
byte, is not filled in at all.  So a directive that is read has the size that it was given
(`size_of_read`), and one that has no size cannot be read (`read_of_size_error`).
-/

namespace TwoPass

namespace Directive

open Bytes Reference

/-- A keyword is known as its kind. -/
theorem ofKeyword?_keyword (k : Kind) : Kind.ofKeyword? k.keyword = some k := by
  cases k <;> decide

theorem keyword_of_ofKeyword? {word : Bytes} {k : Kind} (h : Kind.ofKeyword? word = some k) :
    word = k.keyword := by
  have := List.find?_some h
  exact (of_decide_eq_true this).symm

/-- No keyword has a reference in it. -/
theorem mark_notMem_keyword (k : Kind) : mark ∉ k.keyword := by
  cases k <;> decide

/-- A line is a directive if its first word is a keyword. -/
theorem split_eq_ok {line : Bytes} {k : Kind} {values : List Bytes} :
    split line = .ok (k, values) ↔ line.words = k.keyword :: values := by
  rw [split]
  split
  · rename_i hwords
    rw [hwords]
    exact ⟨nofun, nofun⟩
  · rename_i word rest hwords
    rw [hwords, List.cons.injEq]
    -- a keyword and its kind determine each other
    cases hk : Kind.ofKeyword? word with
    | none =>
        refine ⟨nofun, fun h => ?_⟩
        rw [h.1, ofKeyword?_keyword] at hk
        exact nomatch hk
    | some k' =>
        constructor
        · intro h
          cases h
          exact ⟨keyword_of_ofKeyword? hk, rfl⟩
        · rintro ⟨hword, rfl⟩
          rw [hword, ofKeyword?_keyword] at hk
          cases hk
          rfl

/-- However its references are written, a directive keeps its keyword, and its values are
    rewritten one by one. -/
theorem split_rewrites {P : Bytes → Bytes → Prop} (hP : IsPlainly P) {line out : Bytes} {k : Kind}
    {values : List Bytes} (h : split line = .ok (k, values)) (hout : Rewrites P line out) :
    ∃ values', split out = .ok (k, values') ∧ List.Forall₂ (Rewrites P) values values' := by
  have hwords : List.Forall₂ (Rewrites P) line.words out.words :=
    hout.wordsBy isBlank_of_isPlain hP
  rw [split_eq_ok.mp h, List.forall₂_cons_left_iff] at hwords
  obtain ⟨keyword, values', hkeyword, hvalues, hout⟩ := hwords
  refine ⟨values', ?_, hvalues⟩
  rw [split_eq_ok, hout, hkeyword.eq_of_not_mem (mark_notMem_keyword k)]

/-- References are filled in behind the keyword of a directive, one word at a time. -/
theorem split_substitute {labels : LabelTable} {line out : Bytes} {k : Kind}
    {values : List Bytes} (h : split line = .ok (k, values))
    (hsub : substitute labels line = .ok out) :
    ∃ values', split out = .ok (k, values') ∧
      List.Forall₂ (fun w w' => substitute labels w = .ok w') values values' := by
  obtain ⟨values', hsplit, hvalues⟩ :=
    split_rewrites (isPlainly_standsFor labels) h (substitute_eq_ok.mp hsub)
  exact ⟨values', hsplit, hvalues.imp fun _ _ => substitute_eq_ok.mpr⟩

theorem keyword_plain (k : Kind) :
    k.keyword.all (fun b => !isDigit b && b != '-'.toUInt8) = true := by
  cases k <;> decide

/-- There is no room for an address in a keyword. -/
theorem exists_decimal_notMem_keyword (k : Kind) (a : Int) : ∃ b ∈ decimal a, b ∉ k.keyword := by
  obtain ⟨b, hb⟩ := List.exists_mem_of_ne_nil _ (decimal_ne_nil a)
  refine ⟨b, hb, fun hmem => ?_⟩
  have hplain := List.all_eq_true.mp (keyword_plain k) b hmem
  rcases mem_decimal b hb with hdigit | rfl
  · simp [hdigit] at hplain
  · simp at hplain

/-- What is a directive once it is filled in was one of the same kind before. -/
theorem split_of_fill {labels : LabelTable} {line filled : Bytes} {k : Kind} {values' : List Bytes}
    (hfill : Emission.fill labels false line = .ok filled)
    (h : split filled = .ok (k, values')) : ∃ values, split line = .ok (k, values) := by
  rw [Emission.fill] at hfill
  split at hfill
  · cases hfill
    exact ⟨values', h⟩
  · have hwords : List.Forall₂ (fun w w' => substitute labels w = .ok w') line.words filled.words :=
      wordsBy_substitute isBlank_of_isPlain hfill
    rw [split_eq_ok.mp h, List.forall₂_cons_right_iff] at hwords
    obtain ⟨keyword, values, hkeyword, -, hline⟩ := hwords
    have heq : k.keyword = keyword := eq_of_substitute hkeyword (exists_decimal_notMem_keyword k)
    exact ⟨values, split_eq_ok.mpr (heq ▸ hline)⟩

/-- A directive that is filled in keeps its keyword and the number of its words, and the text of
    `.asciiz` is left as it is. -/
theorem split_fill {labels : LabelTable} {line filled : Bytes} {k : Kind} {values : List Bytes}
    (htrim : Trimmed line) (h : split line = .ok (k, values))
    (hfill : Emission.fill labels false line = .ok filled) :
    ∃ values', split filled = .ok (k, values') ∧ values.length = values'.length ∧
      (k = .asciiz → filled = line) := by
  rw [Emission.fill] at hfill
  by_cases hverb : Emission.isVerbatim false line = true
  · rw [if_pos hverb] at hfill
    cases hfill
    exact ⟨values, h, rfl, fun _ => rfl⟩
  · rw [if_neg hverb] at hfill
    obtain ⟨values', hsplit, hvalues⟩ := split_substitute h hfill
    refine ⟨values', hsplit, hvalues.length_eq, ?_⟩
    -- a trimmed line whose first word is the keyword is left as it is
    rintro rfl
    exact absurd (htrim.isPrefixOf (split_eq_ok.mp h)) hverb

/-- A single value takes up the bytes of its size. -/
theorem length_readSingle {size : Nat} {values : List Bytes} {bytes : Bytes}
    (h : readSingle size values = .ok bytes) : bytes.length = size := by
  rw [readSingle.eq_def] at h
  split at h
  · obtain ⟨n, -, rfl⟩ := map_eq_ok.mp h
    exact length_bigEndian size n
  · exact nomatch h

/-- What a directive of a kind stands for. -/
def readAs (line : Bytes) (values : List Bytes) : Kind → Except Fault Bytes
  | .byte => readSingle 1 values
  | .word => readSingle 2 values
  | .long => readSingle 4 values
  | .array => values.mapM fun word => (readNumber word 8).map Nat.toUInt8
  | .asciiz => (quoted line).map (· ++ [0])

/-- The size that a directive of a kind is given. -/
def sizeAs (line : Bytes) (values : List Bytes) : Kind → Except Fault Nat
  | .byte => .ok 1
  | .word => .ok 2
  | .long => .ok 4
  | .array => .ok values.length
  | .asciiz => (quoted line).map (·.length + 1)

theorem read_of_split {line : Bytes} {k : Kind} {values : List Bytes}
    (h : split line = .ok (k, values)) : read line = readAs line values k := by
  rw [read, h]
  cases k with
  | asciiz =>
      show (quoted line >>= fun text => pure (text ++ [0])) = (quoted line).map (· ++ [0])
      cases quoted line <;> rfl
  | _ => rfl

theorem size_of_split {line : Bytes} {k : Kind} {values : List Bytes}
    (h : split line = .ok (k, values)) : size line = sizeAs line values k := by
  rw [size, h]
  cases k with
  | asciiz =>
      show (quoted line >>= fun text => pure (text.length + 1))
        = (quoted line).map (·.length + 1)
      cases quoted line <;> rfl
  | _ => rfl

/-- Of two lines of one kind with equally many words, and with the same quoted text where that
    counts, the one is given as many bytes as the other emits. -/
theorem sizeAs_of_readAs {line line' : Bytes} {values values' : List Bytes} {k : Kind}
    {bytes : Bytes} (hlen : values.length = values'.length)
    (hquoted : k = .asciiz → line' = line) (hread : readAs line' values' k = .ok bytes) :
    sizeAs line values k = .ok bytes.length := by
  cases k with
  | byte | word | long =>
      rw [length_readSingle hread]
      rfl
  | array =>
      rw [← (mapM_eq_ok.mp hread).length_eq, ← hlen]
      rfl
  | asciiz =>
      rw [hquoted rfl] at hread
      obtain ⟨text, htext, rfl⟩ := map_eq_ok.mp hread
      refine map_eq_ok.mpr ⟨text, htext, ?_⟩
      rw [List.length_append, List.length_singleton]

/-- **SIZES AGREE.**  A directive that emits something was given as many bytes before its
    references were filled in. -/
theorem size_of_read {labels : LabelTable} {line filled bytes : Bytes} (htrim : Trimmed line)
    (hfill : Emission.fill labels false line = .ok filled) (hread : read filled = .ok bytes) :
    size line = .ok bytes.length := by
  obtain ⟨⟨k, values'⟩, hsplit', -⟩ := bind_eq_ok.mp hread
  obtain ⟨values, hsplit⟩ := split_of_fill hfill hsplit'
  obtain ⟨values'', hsplit'', hlength, hquoted⟩ := split_fill htrim hsplit hfill
  cases hsplit'.symm.trans hsplit''
  rw [read_of_split hsplit'] at hread
  rw [size_of_split hsplit]
  exact sizeAs_of_readAs hlength hquoted hread

/-- What is read has as many bytes as were counted before the references were filled in. -/
theorem length_read_of_size {labels : LabelTable} {line filled bytes : Bytes} {n : Nat}
    (htrim : Trimmed line) (hsize : size line = .ok n)
    (hfill : Emission.fill labels false line = .ok filled) (hread : read filled = .ok bytes) :
    bytes.length = n := by
  rw [size_of_read htrim hfill hread] at hsize
  exact Except.ok.inj hsize

/-- A directive has no size only if its text is not quoted, and then it emits nothing. -/
theorem readAs_of_sizeAs_error {line : Bytes} {values : List Bytes} {k : Kind} {f : Fault}
    (h : sizeAs line values k = .error f) : readAs line values k = .error f := by
  cases k with
  | asciiz => exact map_eq_error.mpr (map_eq_error.mp h)
  | _ => cases h

/-- What cannot be sized cannot be read, for the same reason. -/
theorem read_of_size_error {line : Bytes} {f : Fault} (h : size line = .error f) :
    read line = .error f := by
  cases hsplit : split line with
  | error f' =>
      rw [size, hsplit] at h
      obtain rfl : f' = f := Except.error.inj h
      rw [read, hsplit]
      rfl
  | ok cut =>
      obtain ⟨k, values⟩ := cut
      rw [size_of_split hsplit] at h
      rw [read_of_split hsplit]
      exact readAs_of_sizeAs_error h

/-- **SIZED BEFORE, READ AFTERWARDS.**  If a trimmed line stands for some bytes once its references
    are filled in, from whatever table, then the line as it was written has a size, and this is the
    number of these bytes.  And a line that has no size, be it trimmed or not, does not stand for
    bytes either and is refused with the same fault. -/
theorem sizing_agrees (line : Bytes) :
    (∀ (labels : LabelTable) (bytes : Bytes), Trimmed line →
      (Emission.fill labels false line >>= read) = .ok bytes → size line = .ok bytes.length) ∧
    (∀ f, size line = .error f → read line = .error f) := by
  constructor
  · intro labels bytes htrim h
    obtain ⟨filled, hfill, hread⟩ := bind_eq_ok.mp h
    exact size_of_read htrim hfill hread
  · intro f h
    exact read_of_size_error h

/-- A line with a reference that is longer than the address in its place. -/
def pointerLine : Bytes := Bytes.ofString ".array @port 7 @port"

/-- A table for that line. -/
def pointerTable : LabelTable := ⟨[⟨Bytes.ofString "port", ⟨16, .absolute⟩⟩]⟩

/-- A text whose quotes are not closed. -/
def unclosedLine : Bytes := Bytes.ofString ".asciiz \x60@port"

/-- A line with references, and one that neither pass accepts. -/
theorem sizing_agrees_pointerLine :
    (Trimmed pointerLine ∧
      (Emission.fill pointerTable false pointerLine >>= read) = .ok [16, 7, 16] ∧
      size pointerLine = .ok 3) ∧
    size unclosedLine = .error .directiveSyntax ∧ read unclosedLine = .error .directiveSyntax := by
  have htrim : Trimmed pointerLine := by
    show trim pointerLine = pointerLine
    decide
  have hread : (Emission.fill pointerTable false pointerLine >>= read) = .ok [16, 7, 16] := by
    decide +kernel
  have hunclosed : size unclosedLine = .error .directiveSyntax := by decide
  refine ⟨⟨htrim, hread, ?_⟩, hunclosed, ?_⟩
  · exact (sizing_agrees pointerLine).1 pointerTable [16, 7, 16] htrim hread
  · exact (sizing_agrees unclosedLine).2 .directiveSyntax hunclosed

end Directive

end TwoPass
