import TwoPass.Proofs.Source.Printing

/-!
# Grammar — which lines are instructions, and what is wrong with the others

The words of a line are its maximal runs without white space and commas.  `Forms` says which
instruction words form, with the names of opcodes and registers, the values of numerals and the
operands that are left out; `Violates` goes through the same conditions in the order in which they
are looked at, and gives the fault of the first one that fails.  Words form an instruction or
violate a condition, never both (`ofWords_decides`), so reading a line is decided by these two.

Names are compared by lower-casing.  A name consists of letters, and no digit lower-cases to one;
so it does not matter that a word is looked at as a number first if it starts with a digit
(`NamedBy.head_isDigit`).
-/

namespace TwoPass

open Bytes

/-! ## Names -/

/-- A word lower-cases to the mnemonic of a defined opcode. -/
def Opcode.SpelledBy (op : Opcode) (word : Bytes) : Prop :=
  (0 ≤ op.number ∧ op.number < 57) ∧ word.lowerAscii? = some (Bytes.ofString op.name)

/-- A word lower-cases to the name of a register other than `st`. -/
def Register.NamedBy (r : Register) (word : Bytes) : Prop :=
  r.Nameable ∧ word.lowerAscii? = some (Bytes.ofString r.name)

namespace Opcode

/-- A mnemonic is found by the words that spell it. -/
theorem ofWord?_eq_some_iff {word : Bytes} {op : Opcode} :
    ofWord? word = some op ↔ op.SpelledBy word := by
  constructor
  · intro h
    have hdefined := isDefined_of_read (read_eq_ok.mpr h)
    obtain ⟨name, n, hname, hn, rfl⟩ := exists_of_ofWord? h
    obtain ⟨hlt, hfound, -⟩ := List.findIdx?_eq_some_iff_getElem.mp hn
    refine ⟨isDefined_iff.mp hdefined, ?_⟩
    rw [name_eq hlt, hname, eq_of_beq hfound]
  · rintro ⟨hnumber, hlower⟩
    -- looking up a word sees no more of it than its lower case
    have hdefined : op.isDefined = true := isDefined_iff.mpr hnumber
    have hname := ofWord?_name hdefined
    rw [ofWord?, (isName_name hdefined).lowerAscii?] at hname
    rw [ofWord?, hlower]
    exact hname

/-- A word is an opcode, or blamed for not being one. -/
theorem read_decides (word : Bytes) :
    Decides (read word) (fun op => op.SpelledBy word)
      fun f => (∀ op : Opcode, ¬ op.SpelledBy word) ∧ f = .opcodeUnknown word := by
  refine .of_lookup ?_ fun _ => ofWord?_eq_some_iff
  rw [read]
  cases ofWord? word <;> rfl

end Opcode

namespace Register

/-- A register is found by the words that name it. -/
theorem ofWord?_eq_some_iff {word : Bytes} {r : Register} :
    ofWord? word = some r ↔ r.NamedBy word := by
  constructor
  · intro h
    have hnameable := nameable_of_read (read_eq_ok.mpr h)
    obtain ⟨name, n, hname, hn, rfl⟩ := exists_of_ofWord? h
    obtain ⟨hlt, hfound, -⟩ := List.findIdx?_eq_some_iff_getElem.mp hn
    refine ⟨hnameable, ?_⟩
    rw [name_eq hlt, hname, eq_of_beq (Bool.and_eq_true_iff.mp hfound).2]
  · rintro ⟨hnameable, hlower⟩
    have hname := ofWord?_name hnameable
    rw [ofWord?, (isName_name hnameable.1).lowerAscii?] at hname
    rw [ofWord?, hlower]
    exact hname

/-- A word is a register, or blamed for not being one. -/
theorem read_decides (word : Bytes) :
    Decides (read word) (fun r => r.NamedBy word)
      fun f => (∀ r : Register, ¬ r.NamedBy word) ∧ f = .registerUnknown word := by
  refine .of_lookup ?_ fun _ => ofWord?_eq_some_iff
  rw [read]
  cases ofWord? word <;> rfl

/-- No name of a register starts with a digit. -/
theorem NamedBy.head_isDigit {word : Bytes} {r : Register} (h : r.NamedBy word) :
    word.head?.any isDigit = false := by
  have hdigits : ∀ b : UInt8, isDigit b = true → isAscii b = true ∧ isLetter b = false :=
    forall_byte (by decide +kernel)
  cases word with
  | nil => rfl
  | cons b word =>
      show isDigit b = false
      rw [Bool.eq_false_iff]
      intro hdigit
      obtain ⟨hascii, hletter⟩ := hdigits b hdigit
      have hname := isLetter_of_ofWord? (ofWord?_eq_some_iff.mpr h) List.mem_cons_self hascii
      exact absurd hname (hletter ▸ Bool.false_ne_true)

end Register

/-! ## The second operand -/

namespace Operand

/-- How a second operand is written behind an opcode: as the name of a register, or as a number
    of 16 bits behind `movi` and of 8 bits behind any other opcode. -/
inductive WrittenBy (op : Opcode) (word : Bytes) : Operand → Prop
  | register {r : Register} (h : r.NamedBy word) : WrittenBy op word (.ofRegister r)
  | large {n : Nat} (hop : op = .movi) (hdigit : word.head?.any isDigit = true)
      (h : Numeral.Denotes word n) (hn : n ≤ 65535) : WrittenBy op word (.large (BitVec.ofNat 16 n))
  | short {n : Nat} (hop : op ≠ .movi) (hdigit : word.head?.any isDigit = true)
      (h : Numeral.Denotes word n) (hn : n ≤ 255) : WrittenBy op word (.short (BitVec.ofNat 8 n))

/-- What is wrong with a word as a second operand. -/
inductive Refused (op : Opcode) (word : Bytes) : Fault → Prop
  | register (hdigit : word.head?.any isDigit = false) (h : ∀ r : Register, ¬ r.NamedBy word) :
      Refused op word (.registerUnknown word)
  | number {f : Fault} (hdigit : word.head?.any isDigit = true) (h : Numeral.Refused word 65536 f) :
      Refused op word f
  | short {n : Nat} (hop : op ≠ .movi) (h : Numeral.Denotes word n) (hn : 255 < n) :
      Refused op word .immediateRange

/-- **READING A SECOND OPERAND.** -/
theorem readSecond_decides (op : Opcode) (word : Bytes) :
    Decides (readSecond op word) (WrittenBy op word) (Refused op word) := by
  have hnumber : Decides (readNumber word (16 : Nat)) (fun n => Numeral.Denotes word n ∧ n < 65536)
      (Numeral.Refused word 65536) := readNumber_decides word (by decide) (by decide)
  -- a word that starts with a digit is refused as the number it is not
  have hrefused : ∀ f, word.head?.any isDigit = true → Numeral.Refused word 65536 f →
      readSecond op word = .error f := by
    intro f hdigit hf
    rw [readSecond, if_pos hdigit]
    exact bind_eq_error.mpr (Or.inl ((hnumber.error_iff f).mpr hf))
  refine .of_cases ?_ ?_ ?_
  · -- each way of writing an operand is read as that operand
    intro b hb
    cases hb with
    | register h =>
        rw [readSecond, h.head_isDigit, if_neg Bool.false_ne_true,
          ((Register.read_decides word).ok_iff _).mpr h]
        rfl
    | large hop hdigit h hn =>
        rw [readSecond_of_number hdigit ((hnumber.ok_iff _).mpr ⟨h, by omega⟩), if_pos hop]
    | short hop hdigit h hn =>
        rw [readSecond_of_number hdigit ((hnumber.ok_iff _).mpr ⟨h, by omega⟩), if_neg hop,
          if_pos hn]
  · -- each reason to refuse a word is the fault
    intro f hf
    cases hf with
    | register hdigit h =>
        rw [readSecond, hdigit, if_neg Bool.false_ne_true]
        exact map_eq_error.mpr (((Register.read_decides word).error_iff _).mpr ⟨h, rfl⟩)
    | number hdigit h => exact hrefused f hdigit h
    -- too large for eight bits, and maybe for sixteen, which is found out first
    | @short n hop h hn =>
        by_cases hlt : n < 65536
        · rw [readSecond_of_number h.head_isDigit ((hnumber.ok_iff n).mpr ⟨h, hlt⟩), if_neg hop,
            if_neg (Nat.not_le.mpr hn)]
        · refine hrefused _ h.head_isDigit (.wide ⟨word, [], n, ?_, h, Nat.le_of_not_lt hlt⟩)
          exact (List.append_nil word).symm
  · -- one of the two is the case: a first digit decides between numbers and names
    by_cases hdigit : word.head?.any isDigit = true
    · cases hread : readNumber word (16 : Nat) with
      | error f => exact Or.inr ⟨f, .number hdigit ((hnumber.error_iff f).mp hread)⟩
      | ok n =>
          obtain ⟨hdenotes, hlt⟩ := (hnumber.ok_iff n).mp hread
          by_cases hop : op = .movi
          · exact Or.inl ⟨_, .large hop hdigit hdenotes (by omega)⟩
          · by_cases hn : n ≤ 255
            · exact Or.inl ⟨_, .short hop hdigit hdenotes hn⟩
            · exact Or.inr ⟨_, .short hop hdenotes (Nat.lt_of_not_le hn)⟩
    · by_cases hnamed : ∃ r : Register, r.NamedBy word
      · obtain ⟨r, hr⟩ := hnamed
        exact Or.inl ⟨_, .register hr⟩
      · exact Or.inr ⟨_, .register (Bool.eq_false_iff.mpr hdigit) (not_exists.mp hnamed)⟩

end Operand

/-! ## Lines -/

namespace Instruction

/-- The instruction that words form: a mnemonic, a register and a second operand, of which the
    last ones may be missing. -/
inductive Forms : List Bytes → Instruction → Prop
  | bare {w : Bytes} {op : Opcode} {i : Instruction} (hop : op.SpelledBy w)
      (hi : make? op .none .none = some i) : Forms [w] i
  | single {w a : Bytes} {op : Opcode} {r : Register} {i : Instruction} (hop : op.SpelledBy w)
      (ha : r.NamedBy a) (hi : make? op (.ofRegister r) .none = some i) : Forms [w, a] i
  | double {w a b : Bytes} {op : Opcode} {r : Register} {o : Operand} {i : Instruction}
      (hop : op.SpelledBy w) (ha : r.NamedBy a) (hb : o.WrittenBy op b)
      (hi : make? op (.ofRegister r) o = some i) : Forms [w, a, b] i

/-- The fault of the first condition that words violate: there is one, there are no more than
    three, the first is a mnemonic, the second a register, and the third a second operand. -/
inductive Violates : List Bytes → Fault → Prop
  | missing : Violates [] .opcodeMissing
  | extra {words : List Bytes} (h : 3 < words.length) : Violates words .operandExtra
  | opcode {w : Bytes} {rest : List Bytes} (hlength : (w :: rest).length ≤ 3)
      (h : ∀ op : Opcode, ¬ op.SpelledBy w) : Violates (w :: rest) (.opcodeUnknown w)
  | first {w a : Bytes} {rest : List Bytes} {op : Opcode} (hlength : (w :: a :: rest).length ≤ 3)
      (hop : op.SpelledBy w) (h : ∀ r : Register, ¬ r.NamedBy a) :
      Violates (w :: a :: rest) (.registerUnknown a)
  | second {w a b : Bytes} {op : Opcode} {r : Register} {f : Fault} (hop : op.SpelledBy w)
      (ha : r.NamedBy a) (h : Operand.Refused op b f) : Violates [w, a, b] f

/-- Words of the right form are read as their instruction. -/
theorem ofWords_of_forms {words : List Bytes} {i : Instruction} (h : Forms words i) :
    ofWords words = .ok i := by
  cases h with
  | bare hop hi =>
      refine bind_eq_ok.mpr ⟨_, ((Opcode.read_decides _).ok_iff _).mpr hop, ?_⟩
      exact congrArg Except.ok (Option.some.inj hi)
  | single hop ha hi =>
      refine bind_eq_ok.mpr ⟨_, ((Opcode.read_decides _).ok_iff _).mpr hop, ?_⟩
      refine bind_eq_ok.mpr ⟨_, ((Register.read_decides _).ok_iff _).mpr ha, ?_⟩
      exact congrArg Except.ok (Option.some.inj hi)
  | double hop ha hb hi =>
      refine bind_eq_ok.mpr ⟨_, ((Opcode.read_decides _).ok_iff _).mpr hop, ?_⟩
      refine bind_eq_ok.mpr ⟨_, ((Register.read_decides _).ok_iff _).mpr ha, ?_⟩
      refine bind_eq_ok.mpr ⟨_, ((Operand.readSecond_decides _ _).ok_iff _).mpr hb, ?_⟩
      exact congrArg Except.ok (Option.some.inj hi)

/-- Other words are refused for the first that is wrong. -/
theorem ofWords_of_violates {words : List Bytes} {f : Fault} (h : Violates words f) :
    ofWords words = .error f := by
  cases h with
  | missing => rfl
  | extra hlength =>
      match words, hlength with
      | _ :: _ :: _ :: _ :: _, _ => rfl
  -- how many words follow matters to the definition, but not to the fault
  | @opcode w rest hlength h =>
      have hop := ((Opcode.read_decides w).error_iff _).mpr ⟨h, rfl⟩
      match rest, hlength with
      | [], _ => exact bind_eq_error.mpr (Or.inl hop)
      | [_], _ => exact bind_eq_error.mpr (Or.inl hop)
      | [_, _], _ => exact bind_eq_error.mpr (Or.inl hop)
  | @first w a rest op hlength hop h =>
      have hop := ((Opcode.read_decides w).ok_iff op).mpr hop
      have ha := ((Register.read_decides a).error_iff _).mpr ⟨h, rfl⟩
      match rest, hlength with
      | [], _ => exact bind_eq_error.mpr (Or.inr ⟨op, hop, bind_eq_error.mpr (Or.inl ha)⟩)
      | [_], _ => exact bind_eq_error.mpr (Or.inr ⟨op, hop, bind_eq_error.mpr (Or.inl ha)⟩)
  | @second w a b op r _ hop ha h =>
      have hop := ((Opcode.read_decides w).ok_iff op).mpr hop
      have ha := ((Register.read_decides a).ok_iff r).mpr ha
      have hb := ((Operand.readSecond_decides op b).error_iff f).mpr h
      refine bind_eq_error.mpr (Or.inr ⟨op, hop, bind_eq_error.mpr (Or.inr ⟨r, ha, ?_⟩)⟩)
      exact bind_eq_error.mpr (Or.inl hb)

/-- Words form an instruction, or there is a first condition that they violate. -/
theorem forms_or_violates (words : List Bytes) :
    (∃ i, Forms words i) ∨ ∃ f, Violates words f := by
  cases words with
  | nil => exact Or.inr ⟨_, .missing⟩
  | cons w rest =>
      -- the questions in the order in which they are asked: number, opcode, register, operand
      by_cases hlength : (w :: rest).length ≤ 3
      · by_cases hop : ∃ op : Opcode, op.SpelledBy w
        · obtain ⟨op, hop⟩ := hop
          cases rest with
          | nil => exact Or.inl ⟨_, .bare hop rfl⟩
          | cons a rest =>
              by_cases ha : ∃ r : Register, r.NamedBy a
              · obtain ⟨r, ha⟩ := ha
                match rest, hlength with
                | [], _ => exact Or.inl ⟨_, .single hop ha rfl⟩
                | [b], _ =>
                    have hsecond := Operand.readSecond_decides op b
                    cases hb : Operand.readSecond op b with
                    | ok o => exact Or.inl ⟨_, .double hop ha ((hsecond.ok_iff o).mp hb) rfl⟩
                    | error f => exact Or.inr ⟨f, .second hop ha ((hsecond.error_iff f).mp hb)⟩
              · exact Or.inr ⟨_, .first hlength hop (not_exists.mp ha)⟩
        · exact Or.inr ⟨_, .opcode hlength (not_exists.mp hop)⟩
      · exact Or.inr ⟨_, .extra (Nat.lt_of_not_le hlength)⟩

/-- Forms and violations are all that there is. -/
theorem ofWords_decides (words : List Bytes) :
    Decides (ofWords words) (Forms words) (Violates words) :=
  .of_cases (fun _ => ofWords_of_forms) (fun _ => ofWords_of_violates) (forms_or_violates words)

/-- **THE GRAMMAR OF INSTRUCTIONS.**  A line is cut into words in one way, at white space and
    commas.  It is read as an instruction exactly if its words form this instruction, and is
    refused with a fault exactly if this is the fault of the first condition that they violate. -/
theorem read_grammar (line : Bytes) :
    ∃ words, (∀ ws, Cuts isSeparator (glyphs line) ws ↔ ws = words) ∧
      (∀ i, read line = .ok i ↔ Forms words i) ∧
      ∀ f, read line = .error f ↔ Violates words f := by
  have hread := ofWords_decides (wordsBy isSeparator line)
  refine ⟨wordsBy isSeparator line, ?_, hread.ok_iff, hread.error_iff⟩
  intro ws
  rw [cuts_iff, wordsBy_eq, eq_comm]

/-- A dotted capital `I` lower-cases to `i`, and a no-break space separates words.  A number that
    is too wide at some digit is refused for this, whatever stands behind the digit. -/
example :
    read (Bytes.ofString "İn\u00a0dl,,0b101,") =
        .ok (derive ⟨17⟩ (.ofRegister ⟨12⟩) (.short 5)) ∧
      read (Bytes.ofString "in dl 99999z") = .error .immediateRange := ⟨rfl, rfl⟩

end Instruction

end TwoPass
