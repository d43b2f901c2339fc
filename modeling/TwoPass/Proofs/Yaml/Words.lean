import TwoPass.Proofs.Text.Glyphs
import TwoPass.Yaml.Scalar
import Mathlib.Data.List.Basic

/-!
# Words in YAML — texts that are written on one line as they are

Labels and the names of sections are tame: they start with a letter or an underscore, and none of
their characters means anything in YAML.  Such a text needs no escape, so it is written as it stands
(`Tame.scalar_eq`), and in double quotes exactly if a reader would take it for a truth value or for
null (`Tame.readsAsValue_eq`).
-/

namespace TwoPass

namespace Yaml

open Bytes

/-- A character that stands for itself in a scalar, wherever it is. -/
def isTame (b : UInt8) : Bool :=
  isWord b || b == '-'.toUInt8 || b == '('.toUInt8 || b == ')'.toUInt8

/-- A text of such characters that starts with a letter or an underscore. -/
structure Tame (s : Bytes) : Prop where
  bytes : ∀ b ∈ s, isTame b = true
  start : ∃ b rest, s = b :: rest ∧ isWord b = true ∧ isDigit b = false

/-! ## Code points that need no care -/

/-- A code point that is written as it is in every style. -/
structure Harmless (code : Nat) : Prop where
  tab : (code == 0x09) = false
  printable : isPrintable code = true
  lineBreak : isBreak code = false
  space : isSpace code = false
  colon : (code == ':'.toNat) = false
  sharp : (code == '#'.toNat) = false
  quote : (code == '"'.toNat) = false
  backslash : (code == '\\'.toNat) = false

/-- Tame bytes are harmless. -/
theorem harmless_of_isTame {b : UInt8} (h : isTame b = true) : Harmless b.toNat := by
  have hall : ∀ b : UInt8, isTame b = true →
      (b.toNat == 0x09) = false ∧ isPrintable b.toNat = true ∧ isBreak b.toNat = false ∧
      isSpace b.toNat = false ∧ (b.toNat == ':'.toNat) = false ∧ (b.toNat == '#'.toNat) = false ∧
      (b.toNat == '"'.toNat) = false ∧ (b.toNat == '\\'.toNat) = false :=
    forall_byte (by decide +kernel)
  obtain ⟨htab, hprintable, hbreak, hspace, hcolon, hsharp, hquote, hbackslash⟩ := hall b h
  exact ⟨htab, hprintable, hbreak, hspace, hcolon, hsharp, hquote, hbackslash⟩

theorem isAscii_of_isTame (b : UInt8) : isTame b = true → isAscii b = true := by
  revert b
  exact forall_byte (by decide +kernel)

theorem ofCode_of_isTame (b : UInt8) : isTame b = true → ofCode b.toNat = [b] := by
  revert b
  exact forall_byte (by decide +kernel)

section Codes

variable {codes : List Nat}

/-- Where the first of a pair does not occur, the pair does not. -/
theorem hasPair_eq_false {first second : Nat → Bool} (h : ∀ c ∈ codes, first c = false) :
    hasPair first second codes = false := by
  induction codes with
  | nil => rfl
  | cons a codes ih =>
      cases codes with
      | nil => rfl
      | cons b codes =>
          rw [hasPair, h a List.mem_cons_self, Bool.false_and, Bool.false_or]
          exact ih fun c hc => h c (List.mem_cons_of_mem a hc)

/-- Harmless text does not break off. -/
theorem breaksOff_eq_false (h : ∀ c ∈ codes, Harmless c) : breaksOff codes = false := by
  induction codes with
  | nil => rfl
  | cons a codes ih =>
      cases codes with
      | nil => rfl
      | cons b codes =>
          have hb := h b (List.mem_cons_of_mem a List.mem_cons_self)
          rw [breaksOff, hb.colon, hb.sharp, Bool.false_and, Bool.false_and, Bool.false_or,
            Bool.false_or]
          exact ih fun c hc => h c (List.mem_cons_of_mem a hc)

/-- It allows single quotes. -/
theorem allowsSingle_of_harmless (h : ∀ c ∈ codes, Harmless c) : allowsSingle codes = true := by
  have hany : (codes.any fun c => c == 0x09 || isSpecial c) = false := by
    rw [List.any_eq_false]
    intro c hc
    simp [isSpecial, (h c hc).tab, (h c hc).printable]
  rw [allowsSingle, hany, hasPair_eq_false fun c hc => (h c hc).lineBreak,
    hasPair_eq_false fun c hc => (h c hc).space]
  rfl

/-- It needs no escapes. -/
theorem flatMap_escaped (h : ∀ c ∈ codes, Harmless c) :
    codes.flatMap (escaped false) = codes.flatMap ofCode := by
  refine List.flatMap_congr fun c hc => ?_
  have hc := h c hc
  rw [escaped, hc.printable, hc.lineBreak, hc.quote, hc.backslash]
  rfl

end Codes

/-! ## Tame texts -/

namespace Tame

variable {s : Bytes} (h : Tame s)

include h

theorem glyphs_eq : glyphs s = s.map Glyph.ascii :=
  glyphs_ascii fun b hb => isAscii_of_isTame b (h.bytes b hb)

/-- A tame text is valid. -/
theorem isUtf8 : s.isUtf8 = true := by
  rw [Bytes.isUtf8, h.glyphs_eq, List.all_map]
  exact List.all_eq_true.mpr fun b _ => rfl

/-- Its code points are its bytes. -/
theorem codes_eq : (glyphs s).filterMap Glyph.code? = s.map UInt8.toNat := by
  rw [h.glyphs_eq, List.filterMap_map]
  exact congrFun List.filterMap_eq_map s

theorem harmless : ∀ c ∈ s.map UInt8.toNat, Harmless c := by
  intro c hc
  obtain ⟨b, hb, rfl⟩ := List.mem_map.mp hc
  exact harmless_of_isTame (h.bytes b hb)

theorem flatMap_ofCode : (s.map UInt8.toNat).flatMap ofCode = s := by
  rw [List.flatMap_map]
  have hbytes : ∀ b ∈ s, ofCode b.toNat = [b] := fun b hb => ofCode_of_isTame b (h.bytes b hb)
  rw [List.flatMap_congr hbytes]
  exact List.flatMap_singleton' s

/-- The first character starts nothing but plain text. -/
theorem startsSpecial_eq_false : startsSpecial (s.map UInt8.toNat) = false := by
  have hall : ∀ b : UInt8, isWord b = true → isIndicator b.toNat = false ∧
      (b.toNat == '?'.toNat || b.toNat == ':'.toNat || b.toNat == '-'.toNat) = false ∧
      ('-'.toNat == b.toNat) = false ∧ ('.'.toNat == b.toNat) = false := forall_byte (by decide +kernel)
  obtain ⟨b, rest, rfl, hword, -⟩ := h.start
  obtain ⟨hindicator, hmark, hdash, hdot⟩ := hall b hword
  rw [List.map_cons, startsSpecial, hindicator, hmark]
  show (false || false || (('-'.toNat == b.toNat) && _) || (('.'.toNat == b.toNat) && _)) = false
  rw [hdash, hdot]
  rfl

/-- It may be written as it is. -/
theorem allowsPlain : Yaml.allowsPlain (s.map UInt8.toNat) = true := by
  have hspace : ∀ c ∈ s.map UInt8.toNat, c ≠ space := by
    intro c hc
    exact ne_of_beq_false (h.harmless c hc).space
  have hbreak : (s.map UInt8.toNat).any isBreak = false := by
    rw [List.any_eq_false]
    intro c hc
    rw [(h.harmless c hc).lineBreak]
    exact Bool.false_ne_true
  have hhead : ((s.map UInt8.toNat).head? != some space) = true := by
    rw [bne_iff_ne]
    exact fun hhead => hspace _ (List.mem_of_mem_head? hhead) rfl
  have hlast : ((s.map UInt8.toNat).getLast? != some space) = true := by
    rw [bne_iff_ne]
    exact fun hlast => hspace _ (List.mem_of_mem_getLast? hlast) rfl
  rw [Yaml.allowsPlain, allowsSingle_of_harmless h.harmless, hbreak, h.startsSpecial_eq_false,
    breaksOff_eq_false h.harmless, hhead, hlast]
  rfl

/-- It may be written between quotes without a change. -/
theorem doubleQuoted_eq : doubleQuoted (s.map UInt8.toNat) = '"'.toUInt8 :: s ++ ['"'.toUInt8] := by
  have hmark : ((s.map UInt8.toNat).head? == some 0xFEFF) = false := by
    rw [beq_eq_false_iff_ne]
    intro hhead
    obtain ⟨b, -, hb⟩ := List.mem_map.mp (List.mem_of_mem_head? hhead)
    have := b.toNat_lt
    omega
  simp only [doubleQuoted, hmark, flatMap_escaped h.harmless, h.flatMap_ofCode]
  rfl

/-- **A TAME TEXT AS A SCALAR.**  It is written as it stands, or in double quotes if it would be
    taken for another kind of value. -/
theorem scalar_eq (indent : Nat) :
    scalar indent s =
      onLine (if readsAsValue s then '"'.toUInt8 :: s ++ ['"'.toUInt8] else s) := by
  have hnewline : (s.map UInt8.toNat).contains '\n'.toNat = false := by
    rw [Bool.eq_false_iff, ne_eq, List.contains_iff_mem]
    intro hmem
    exact absurd (h.harmless _ hmem).lineBreak (by decide)
  rw [scalar, h.isUtf8]
  simp only [h.codes_eq, hnewline, h.allowsPlain, h.doubleQuoted_eq]
  cases readsAsValue s with
  | true => rfl
  | false => rfl

/-- Of the words that do not stand for text, only those without digits can be tame. -/
theorem readsAsValue_eq : readsAsValue s = (isOneOf valueWords s || isOneOf formerWords s) := by
  have hall : ∀ b : UInt8, isWord b = true → (b == '.'.toUInt8) = false ∧
      (b == '+'.toUInt8) = false ∧ (b == '-'.toUInt8) = false := forall_byte (by decide +kernel)
  obtain ⟨b, rest, rfl, hword, hdigit⟩ := h.start
  obtain ⟨hdot, hplus, hminus⟩ := hall b hword
  simp only [readsAsValue, hdot, hdigit, hplus, hminus]
  simp

end Tame

end Yaml

end TwoPass
