import TwoPass.Proofs.Source.Names
import TwoPass.Proofs.Text.Blanks

/-!
# Values — the numbers behind a directive

Behind its keyword, a directive other than `.asciiz` has words, and each of them must be a numeral
that fits (`readValue_eq_ok`).  Words with blanks between them are found again, however many blanks
there are and of whatever kind (`words_spread`); so a line that spells some numbers out, each in the
base that is preferred for it, stands for the bytes of these numbers and for no others.
-/

namespace TwoPass

open Bytes Numeral

/-! ## Words with blanks between them -/

namespace Bytes

/-- White space that keeps two words apart. -/
def IsGap (w : Bytes) : Prop := w ≠ [] ∧ IsBlank w

instance (w : Bytes) : Decidable (IsGap w) := inferInstanceAs (Decidable (_ ∧ _))

/-- Words, each behind a gap of its own. -/
def spread (written : List (Bytes × Bytes)) : Bytes := written.flatMap fun w => w.1 ++ w.2

/-- Words are found behind their gaps. -/
theorem words_spread {first : Bytes} {written : List (Bytes × Bytes)} (hfirst : IsSolid first)
    (h : ∀ w ∈ written, IsGap w.1 ∧ IsSolid w.2) :
    words (first ++ spread written) = first :: written.map Prod.snd := by
  induction written generalizing first with
  | nil =>
      show words (first ++ []) = first :: []
      exact wordsBy_append hfirst.1 hfirst.2 (fun g hg => by cases hg)
  | cons w written ih =>
      obtain ⟨hgap, hsolid⟩ := h w List.mem_cons_self
      have hrest := ih hsolid fun w' hw' => h w' (List.mem_cons_of_mem _ hw')
      have hcut : spread (w :: written) = w.1 ++ (w.2 ++ spread written) := by
        rw [spread, List.flatMap_cons, List.append_assoc, ← spread]
      rw [hcut]
      show wordsBy Glyph.isBlank (first ++ _) = _
      rw [wordsBy_append hfirst.1 hfirst.2 (hgap.2.head?_append hgap.1 _), ← words,
        hgap.2.words_append, hrest, List.map_cons]

end Bytes

/-- A numeral is a word of its own. -/
theorem Numeral.Denotes.isSolid {word : Bytes} {n : Nat} (h : Denotes word n) : IsSolid word :=
  Reference.isSolid_of_isPlain h.isWord.1 fun b hb => Reference.isPlain_of_isWord (h.isWord.2 b hb)

namespace Directive

theorem isSolid_keyword (k : Kind) : IsSolid k.keyword := by
  have hall : k.keyword.all (fun b => isAscii b && !Glyph.isBlank (.ascii b)) = true := by
    cases k <;> decide
  refine ⟨by cases k <;> decide, fun b hb => ?_⟩
  simpa using List.all_eq_true.mp hall b hb

/-! ## Values -/

variable {values : List Bytes} {bytes : Bytes} {kind : Kind}

/-- The bytes that a value of a directive takes up; the text of `.asciiz` is no value. -/
def Kind.width : Kind → Nat
  | .byte => 1
  | .word => 2
  | .long => 4
  | .array => 1
  | .asciiz => 0

/-- The values that there is room for behind a keyword: numbers that fit, and a single one unless
    the directive takes any number of them. -/
def Kind.Accepts (kind : Kind) (values : List Bytes) : Prop :=
  (∀ word ∈ values, ∃ v, Denotes word v ∧ v < 2 ^ (8 * kind.width)) ∧
    (kind ≠ .array → values.length = 1)

/-- A single value is written in as many bytes as there are for it. -/
theorem readSingle_eq_ok {size : Nat} (hpos : 0 < size) (hle : size ≤ 8) :
    readSingle size values = .ok bytes ↔
      ∃ word v, values = [word] ∧ (Denotes word v ∧ v < 2 ^ (8 * size)) ∧
        bytes = bigEndian size v := by
  have hnumber : ∀ word v, readNumber word (8 * size) = .ok v ↔
      Denotes word v ∧ v < 2 ^ (8 * size) := by
    intro word v
    have hiff : readNumber word ((8 * size : Nat) : Int) = .ok v ↔
        Denotes word v ∧ v < 2 ^ (8 * size) := readNumber_eq_ok_iff (by omega) (by omega)
    rwa [Int.natCast_mul] at hiff
  constructor
  · intro h
    rw [readSingle.eq_def] at h
    split at h
    · rename_i word
      obtain ⟨v, hv, rfl⟩ := map_eq_ok.mp h
      exact ⟨word, v, rfl, (hnumber word v).mp hv, rfl⟩
    · cases h
  · rintro ⟨word, v, rfl, hv, rfl⟩
    exact map_eq_ok.mpr ⟨v, (hnumber word v).mpr hv, rfl⟩

/-- A value in one byte. -/
theorem readValue_eq_ok {word : Bytes} {b : UInt8} :
    (readNumber word 8).map Nat.toUInt8 = .ok b ↔ Denotes word b.toNat := by
  have hnumber : ∀ v, readNumber word 8 = .ok v ↔ Denotes word v ∧ v < 2 ^ 8 := by
    intro v
    have hpos : 0 < 8 := by decide
    exact readNumber_eq_ok_iff hpos (by decide)
  rw [map_eq_ok]
  constructor
  · rintro ⟨v, hv, rfl⟩
    obtain ⟨hdenotes, hlt⟩ := (hnumber v).mp hv
    have hsame : (Nat.toUInt8 v).toNat = v := UInt8.toNat_ofNat_of_lt hlt
    rw [hsame]
    exact hdenotes
  · intro h
    exact ⟨b.toNat, (hnumber _).mpr ⟨h, b.toNat_lt⟩, UInt8.ofNat_toNat⟩

/-- Values in one byte each. -/
theorem readValues_eq_ok :
    values.mapM (fun word => (readNumber word 8).map Nat.toUInt8) = .ok bytes ↔
      List.Forall₂ (fun word b => Denotes word b.toNat) values bytes := by
  rw [mapM_eq_ok]
  constructor
  · intro h
    exact h.imp fun _ _ => readValue_eq_ok.mp
  · intro h
    exact h.imp fun _ _ => readValue_eq_ok.mpr

/-- A single value is there and fits, or nothing is read. -/
theorem exists_readSingle_iff {size : Nat} (hpos : 0 < size) (hle : size ≤ 8) :
    (∃ bytes, readSingle size values = .ok bytes) ↔
      (∀ word ∈ values, ∃ v, Denotes word v ∧ v < 2 ^ (8 * size)) ∧ values.length = 1 := by
  constructor
  · rintro ⟨bytes, h⟩
    obtain ⟨word, v, rfl, hv, -⟩ := (readSingle_eq_ok hpos hle).mp h
    refine ⟨?_, rfl⟩
    intro word' hword'
    rw [List.mem_singleton.mp hword']
    exact ⟨v, hv⟩
  · rintro ⟨hvalues, hlength⟩
    obtain ⟨word, rfl⟩ := List.length_eq_one_iff.mp hlength
    obtain ⟨v, hv⟩ := hvalues word List.mem_cons_self
    exact ⟨_, (readSingle_eq_ok hpos hle).mpr ⟨word, v, rfl, hv, rfl⟩⟩

/-- A number that fits in a byte is a byte. -/
theorem exists_byte_iff {word : Bytes} :
    (∃ v, Denotes word v ∧ v < 2 ^ 8) ↔ ∃ b : UInt8, Denotes word b.toNat := by
  constructor
  · rintro ⟨v, hdenotes, hlt⟩
    refine ⟨v.toUInt8, ?_⟩
    have hsame : (Nat.toUInt8 v).toNat = v := UInt8.toNat_ofNat_of_lt hlt
    rw [hsame]
    exact hdenotes
  · rintro ⟨b, hdenotes⟩
    exact ⟨b.toNat, hdenotes, b.toNat_lt⟩

/-- Values are read exactly if the kind accepts them. -/
theorem exists_readAs_iff (line : Bytes) (hkind : kind ≠ .asciiz) :
    (∃ bytes, readAs line values kind = .ok bytes) ↔ kind.Accepts values := by
  have hsingle : ∀ {k : Kind}, k ≠ .array → k.Accepts values =
      ((∀ word ∈ values, ∃ v, Denotes word v ∧ v < 2 ^ (8 * k.width)) ∧ values.length = 1) := by
    intro k hk
    rw [Kind.Accepts, forall_prop_of_true hk]
  cases kind with
  | asciiz => exact absurd rfl hkind
  -- each value of an array is a byte of its own
  | array =>
      constructor
      · rintro ⟨bytes, h⟩
        refine ⟨fun word hword => ?_, fun hne => absurd rfl hne⟩
        obtain ⟨b, -, hb⟩ := exists_of_mem_forall₂ (readValues_eq_ok.mp h) hword
        exact exists_byte_iff.mpr ⟨b, hb⟩
      · intro h
        obtain ⟨bytes, hbytes⟩ :=
          exists_forall₂ fun word hword => exists_byte_iff.mp (h.1 word hword)
        exact ⟨bytes, readValues_eq_ok.mpr hbytes⟩
  | byte | word | long =>
      rw [hsingle (by decide)]
      exact exists_readSingle_iff (by decide) (by decide)

theorem Kind.width_of_single :
    ∀ kind ∈ [Kind.byte, .word, .long], 0 < kind.width ∧ kind.width ≤ 8 := by
  decide

/-- What the values of a directive of one number come to. -/
theorem readAs_single (line : Bytes) (hkind : kind ∈ [Kind.byte, .word, .long]) :
    readAs line values kind = readSingle kind.width values := by
  cases kind with
  | byte | word | long => rfl
  | array | asciiz => exact absurd hkind (by decide)

/-- **NUMBERS COME BACK.**  Spell out any bytes behind `.array`, each in the base one likes and
    behind as many blanks as one likes: the line stands for these bytes, in this order.  A number
    below `2 ^ 8`, `2 ^ 16` or `2 ^ 32` behind `.byte`, `.word` or `.long` stands for the 1, 2 or 4
    bytes that hold it, most significant first.  And a line of any of the four directives stands for
    bytes exactly if each of its values is a numeral whose number fits and, unless it is an
    `.array`, there is exactly one; any other is refused. -/
theorem read_numerals :
    (∀ (bytes : Bytes) (written : List (Bytes × Bytes)),
      List.Forall₂ (fun w b => IsGap w.1 ∧ Denotes w.2 b.toNat) written bytes →
      read (Kind.array.keyword ++ spread written) = .ok bytes) ∧
    (∀ kind ∈ [Kind.byte, .word, .long], ∀ (gap word : Bytes) (v : Nat), IsGap gap →
      Denotes word v → v < 2 ^ (8 * kind.width) →
      ∃ bytes, read (kind.keyword ++ (gap ++ word)) = .ok bytes ∧ bytes.length = kind.width ∧
        ofBigEndian bytes = v) ∧
    (∀ (kind : Kind) (line : Bytes) (values : List Bytes), kind ≠ .asciiz →
      line.words = kind.keyword :: values →
      ((∃ bytes, read line = .ok bytes) ↔ kind.Accepts values) ∧
        (¬ kind.Accepts values → ∃ f, read line = .error f)) := by
  refine ⟨?_, ?_, ?_⟩
  · intro bytes written h
    -- the words of the line are the keyword and the numerals, whatever is between them
    have hwords : words (Kind.array.keyword ++ spread written) =
        Kind.array.keyword :: written.map Prod.snd := by
      refine words_spread (isSolid_keyword .array) fun w hw => ?_
      obtain ⟨b, -, hgap, hdenotes⟩ := exists_of_mem_forall₂ h hw
      exact ⟨hgap, hdenotes.isSolid⟩
    rw [read_of_split (split_eq_ok.mpr hwords), readAs, readValues_eq_ok, List.forall₂_map_left_iff]
    exact h.imp fun _ _ => And.right
  · intro kind hkind gap word v hgap hdenotes hlt
    have hwords : words (kind.keyword ++ (gap ++ word)) = [kind.keyword, word] := by
      have hwritten : ∀ w ∈ [(gap, word)], IsGap w.1 ∧ IsSolid w.2 := by
        intro w hw
        rw [List.mem_singleton.mp hw]
        exact ⟨hgap, hdenotes.isSolid⟩
      have hspread := words_spread (isSolid_keyword kind) hwritten
      rwa [spread, List.flatMap_singleton] at hspread
    have hwidth := Kind.width_of_single kind hkind
    refine ⟨bigEndian kind.width v, ?_, length_bigEndian _ _, ?_⟩
    · rw [read_of_split (split_eq_ok.mpr hwords), readAs_single _ hkind,
        readSingle_eq_ok hwidth.1 hwidth.2]
      exact ⟨word, v, rfl, ⟨hdenotes, hlt⟩, rfl⟩
    · rw [Nat.pow_mul] at hlt
      rw [ofBigEndian_bigEndian, Nat.mod_eq_of_lt hlt]
  · intro kind line values hkind hwords
    have hiff : (∃ bytes, read line = .ok bytes) ↔ kind.Accepts values := by
      -- which values are accepted is a matter of the words alone
      rw [read_of_split (split_eq_ok.mpr hwords)]
      exact exists_readAs_iff line hkind
    refine ⟨hiff, fun hnot => ?_⟩
    exact exists_error_of_ne_ok fun bytes hread => hnot (hiff.mp ⟨bytes, hread⟩)

/-- Bytes in three bases, with a tabulator, two blanks and an ideographic space between them. -/
def mixedValues : List (Bytes × Bytes) :=
  [(Bytes.ofString "\t", Bytes.ofString "007"), (Bytes.ofString "  ", Bytes.ofString "0xFf"),
    (Bytes.ofCode 0x3000, Bytes.ofString "0b101")]

/-- Values in three bases, and one that is too large. -/
theorem read_numerals_mixedValues :
    read (Kind.array.keyword ++ spread mixedValues) = .ok [7, 255, 5] ∧
    (∃ bytes, read (Bytes.ofString ".word 0xBEEF") = .ok bytes ∧ bytes.length = 2 ∧
      ofBigEndian bytes = 0xBEEF) ∧
    ¬ Kind.byte.Accepts [Bytes.ofString "256"] ∧
    ∃ f, read (Bytes.ofString ".byte 256") = .error f := by
  obtain ⟨harray, hsingle, hall⟩ := read_numerals
  have hmixed : List.Forall₂ (fun w (b : UInt8) => IsGap w.1 ∧ Denotes w.2 b.toNat) mixedValues
      [7, 255, 5] := by
    refine .cons ⟨by decide, ?_⟩ (.cons ⟨by decide, ?_⟩ (.cons ⟨by decide, ?_⟩ .nil))
    · exact ⟨.decimal, Bytes.ofString "007", [0, 0, 7], by decide, by decide, by decide, by decide⟩
    · exact ⟨.hexadecimal, Bytes.ofString "Ff", [15, 15], by decide, by decide, by decide,
        by decide⟩
    · exact ⟨.binary, Bytes.ofString "101", [1, 0, 1], by decide, by decide, by decide, by decide⟩
  have hbeef : Denotes (Bytes.ofString "0xBEEF") 0xBEEF :=
    ⟨.hexadecimal, Bytes.ofString "BEEF", [11, 14, 14, 15], by decide, by decide, by decide,
      by decide⟩
  have hwide : ¬ Kind.byte.Accepts [Bytes.ofString "256"] := by
    intro h
    obtain ⟨v, hv⟩ := h.1 _ List.mem_cons_self
    have hread : readNumber (Bytes.ofString "256") (8 : Nat) = .ok v :=
      (readNumber_eq_ok_iff (by decide) (by decide)).mpr hv
    have hrefused : readNumber (Bytes.ofString "256") (8 : Nat) = .error .immediateRange := by
      decide
    cases hread.symm.trans hrefused
  refine ⟨harray [7, 255, 5] mixedValues hmixed, ?_, hwide, ?_⟩
  · exact hsingle .word (by decide) (Bytes.ofString " ") (Bytes.ofString "0xBEEF") 0xBEEF
      (by decide) hbeef (by decide)
  · exact (hall .byte (Bytes.ofString ".byte 256") [Bytes.ofString "256"] (by decide)
      (by decide)).2 hwide

end Directive

end TwoPass
