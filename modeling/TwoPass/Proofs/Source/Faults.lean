import TwoPass.Proofs.Failure
import TwoPass.Proofs.Source.Directives

/-!
# Faults — what can be wrong with a piece of text

Each reader has its own faults.  They are listed here kind by kind, and each reader fails
only with those of its list: a number (`OfNumber`), an instruction as text
(`OfInstruction`) and as a value (`OfRule`), a reference, and the values of a directive whose
keyword and quotes are in order (`OfValues`).
-/

namespace TwoPass

namespace Fault

-- the kinds of a fault are read off its constructor
attribute [simp] chain

/-- A word that should be a number. -/
inductive OfNumber : Fault → Prop
  | immediateRange : OfNumber .immediateRange
  | notNumber (word : Bytes) : OfNumber (.notNumber word)

/-- A text that should be an instruction. -/
inductive OfInstruction : Fault → Prop
  | opcodeMissing : OfInstruction .opcodeMissing
  | operandExtra : OfInstruction .operandExtra
  | opcodeUnknown (word : Bytes) : OfInstruction (.opcodeUnknown word)
  | registerUnknown (word : Bytes) : OfInstruction (.registerUnknown word)
  | number {f : Fault} (h : OfNumber f) : OfInstruction f

/-- An instruction that breaks a rule of the machine. -/
inductive OfRule : Fault → Prop
  | opcodeUnknown (word : Bytes) : OfRule (.opcodeUnknown word)
  | operandShape : OfRule .operandShape
  | registerCode : OfRule .registerCode
  | registerUse (r : Register) (misuse : Misuse) : OfRule (.registerUse r misuse)
  | registerPair (a b : Register) : OfRule (.registerPair a b)
  | immediateTooLarge : OfRule .immediateTooLarge

/-- The values behind the keyword of a directive: only a directive that takes a single number
    can have too few or too many. -/
inductive OfValues (kind : Directive.Kind) (values : List Bytes) : Fault → Prop
  | number {f : Fault} (h : OfNumber f) : OfValues kind values f
  | count (hkind : kind ∈ [Directive.Kind.byte, .word, .long]) (hvalues : values.length ≠ 1) :
      OfValues kind values .directiveSyntax

end Fault

open Fault

/-- A number is refused as no number or as too large. -/
theorem failsOnly_readNumber (word : Bytes) (width : Int) :
    FailsOnly OfNumber (readNumber word width) := by
  rw [readNumber]
  split
  · exact .ok _
  · exact .error .immediateRange
  · exact .error (.notNumber word)

/-! ## Instructions -/

/-- A word is refused as the name of a register. -/
theorem Register.failsOnly_read (word : Bytes) : FailsOnly OfInstruction (read word) := by
  rw [read]
  split
  · exact .ok _
  · exact .error (.registerUnknown word)

/-- A word is refused as a mnemonic. -/
theorem Opcode.failsOnly_read (word : Bytes) : FailsOnly OfInstruction (read word) := by
  rw [read]
  split
  · exact .ok _
  · exact .error (.opcodeUnknown word)

/-- A second operand is refused as a register or as a number. -/
theorem Operand.failsOnly_readSecond (opcode : Opcode) (word : Bytes) :
    FailsOnly OfInstruction (readSecond opcode word) := by
  rw [readSecond]
  split
  · refine FailsOnly.bind ((failsOnly_readNumber word 16).imp fun _ => .number) fun value => ?_
    split
    · exact .ok _
    · split
      · exact .ok _
      · exact .error (.number .immediateRange)
  · exact (Register.failsOnly_read word).map

namespace Instruction

/-- The words of an instruction are refused for one of them, or for their number. -/
theorem failsOnly_ofWords (words : List Bytes) : FailsOnly OfInstruction (ofWords words) := by
  rw [ofWords.eq_def]
  split
  · exact .error .opcodeMissing
  · exact (Opcode.failsOnly_read _).bind fun _ => .ok _
  · exact (Opcode.failsOnly_read _).bind fun _ => (Register.failsOnly_read _).bind fun _ => .ok _
  · exact (Opcode.failsOnly_read _).bind fun opcode => (Register.failsOnly_read _).bind fun _ =>
      (Operand.failsOnly_readSecond opcode _).bind fun _ => .ok _
  · exact .error .operandExtra

theorem failsOnly_read (line : Bytes) : FailsOnly OfInstruction (read line) := failsOnly_ofWords _

end Instruction

/-! ## Rules of the machine -/

namespace Register

theorem failsOnly_requireNone (r : Register) : FailsOnly OfRule r.requireNone := by
  rw [requireNone]
  split
  · exact .ok _
  · exact .error (.registerUse _ _)

theorem failsOnly_requireSome (r : Register) : FailsOnly OfRule r.requireSome := by
  rw [requireSome]
  split
  · exact .error (.registerUse _ _)
  · exact .ok _

/-- Two registers are refused as a pair. -/
theorem failsOnly_requirePair (a b : Register) : FailsOnly OfRule (a.requirePair b) := by
  rw [requirePair]
  split
  · exact .error .registerCode
  · split
    · exact .ok _
    · exact .error (.registerPair a b)

theorem failsOnly_requireNoWidths (a b : Register) : FailsOnly OfRule (a.requireNoWidths b) := by
  rw [requireNoWidths]
  split
  · exact .ok _
  · exact .error .registerCode

theorem failsOnly_code (r : Register) : FailsOnly OfRule r.code := by
  rw [code]
  split
  · exact .ok _
  · exact .error (.registerUse _ _)

end Register

namespace Operand

theorem failsOnly_requireRegister (o : Operand) : FailsOnly OfRule o.requireRegister := by
  rw [requireRegister]
  split
  · exact .ok _
  · exact .error .operandShape

theorem failsOnly_requireEncodable (o : Operand) : FailsOnly OfRule o.requireEncodable := by
  rw [requireEncodable]
  split
  · exact (Register.failsOnly_code _).map
  · exact .ok _

theorem failsOnly_requireKind (o : Operand) (kind : OperandKind) :
    FailsOnly OfRule (o.requireKind kind) := by
  rw [requireKind]
  split
  · exact .ok _
  · exact .error .operandShape

end Operand

namespace Instruction

/-- Every shape has rules of the machine only. -/
theorem failsOnly_checkShape (i : Instruction) (shape : Shape) :
    FailsOnly OfRule (i.checkShape shape) := by
  cases shape with
  | none =>
      exact i.b.failsOnly_requireRegister.bind fun _ =>
        i.a.register.failsOnly_requireNone.bind fun _ =>
        i.b.register.failsOnly_requireNone.bind fun _ =>
        i.a.register.failsOnly_requireNoWidths i.b.register
  | reg =>
      exact i.b.failsOnly_requireRegister.bind fun _ =>
        i.a.register.failsOnly_requireSome.bind fun _ => i.b.register.failsOnly_requireNone
  | regReg =>
      exact i.b.failsOnly_requireRegister.bind fun _ =>
        i.a.register.failsOnly_requirePair i.b.register
  | regImm5 =>
      refine i.a.register.failsOnly_requireSome.bind fun _ =>
        (i.b.failsOnly_requireKind .short).bind fun _ => ?_
      split
      · exact .ok _
      · exact .error .immediateTooLarge
  | regImm16 =>
      exact i.a.register.failsOnly_requireSome.bind fun _ => i.b.failsOnly_requireKind .large

/-- So an instruction breaks no other rules. -/
theorem failsOnly_check (i : Instruction) : FailsOnly OfRule i.check := by
  rw [check]
  split
  · exact i.a.failsOnly_requireRegister.bind fun _ => i.a.failsOnly_requireEncodable.bind fun _ =>
      i.b.failsOnly_requireEncodable.bind fun _ => i.failsOnly_checkShape _
  · exact .error (.opcodeUnknown _)

/-- An instruction is refused for a rule that it breaks, and is named. -/
theorem validate_eq_error {i : Instruction} {f : Fault} (h : i.validate = .error f) :
    ∃ cause, f = .illegal i cause ∧ OfRule cause := by
  obtain ⟨cause, hcheck, rfl⟩ := mapError_eq_error.mp h
  exact ⟨cause, rfl, failsOnly_check i cause hcheck⟩

end Instruction

/-! ## References and directives -/

/-- References are refused for a name that is not in the table. -/
theorem Reference.substitute_eq_error {labels : LabelTable} {line : Bytes} {f : Fault}
    (h : substitute labels line = .error f) : ∃ name, f = .labelUnknown name := by
  rcases bind_eq_error.mp h with hpieces | ⟨parts, -, hdone⟩
  · obtain ⟨piece, -, hpiece⟩ := exists_of_mapM_eq_error hpieces
    rw [Piece.resolve.eq_def] at hpiece
    split at hpiece
    · cases hpiece
    · rename_i name
      split at hpiece
      · cases hpiece
      · cases hpiece
        exact ⟨name, rfl⟩
  · cases hdone

/-- Filling in references fails for a name only. -/
theorem Emission.fill_eq_error {labels : LabelTable} {inCode : Bool} {text : Bytes} {f : Fault}
    (h : fill labels inCode text = .error f) : ∃ name, f = .labelUnknown name := by
  rw [fill] at h
  split at h
  · cases h
  · exact Reference.substitute_eq_error h

namespace Directive

/-- A single value is refused for the number that it is, or because it is not single. -/
theorem readSingle_eq_error {size : Nat} {values : List Bytes} {f : Fault}
    (h : readSingle size values = .error f) :
    OfNumber f ∨ f = .directiveSyntax ∧ values.length ≠ 1 := by
  rw [readSingle.eq_def] at h
  split at h
  · rename_i word
    exact Or.inl (failsOnly_readNumber word _ f (map_eq_error.mp h))
  · rename_i hvalues
    cases h
    refine Or.inr ⟨rfl, fun hlength => ?_⟩
    obtain ⟨word, rfl⟩ := List.length_eq_one_iff.mp hlength
    exact hvalues word rfl

/-- A directive with its quotes in order is refused for its values. -/
theorem readAs_eq_error {line : Bytes} {values : List Bytes} {kind : Kind} {f : Fault}
    (hquoted : kind = .asciiz → ∃ text, quoted line = .ok text)
    (h : readAs line values kind = .error f) : OfValues kind values f := by
  cases kind with
  | array =>
      refine .number (FailsOnly.mapM (fun word => ?_) values f h)
      exact (failsOnly_readNumber word 8).map
  | asciiz =>
      obtain ⟨text, htext⟩ := hquoted rfl
      rw [readAs, htext] at h
      cases h
  | byte | word | long =>
      rcases readSingle_eq_error h with hnumber | ⟨rfl, hvalues⟩
      · exact .number hnumber
      · exact .count (by decide) hvalues

/-- A directive that could be sized is later refused for its values or for a reference. -/
theorem fill_read_eq_error {labels : LabelTable} {line : Bytes} {f : Fault} {n : Nat}
    (htrim : Bytes.Trimmed line) (hsize : size line = .ok n)
    (h : (Emission.fill labels false line >>= read) = .error f) :
    (∃ name, f = .labelUnknown name) ∨
      ∃ kind values, line.words = kind.keyword :: values ∧ OfValues kind values f := by
  obtain ⟨⟨kind, values⟩, hsplit, -⟩ := bind_eq_ok.mp hsize
  rcases bind_eq_error.mp h with hfill | ⟨filled, hfill, hread⟩
  · exact Or.inl (Emission.fill_eq_error hfill)
  · obtain ⟨values', hsplit', hlength, hquoted⟩ := split_fill htrim hsplit hfill
    rw [read_of_split hsplit'] at hread
    have hfault : OfValues kind values' f := by
      refine readAs_eq_error ?_ hread
      rintro rfl
      rw [size_of_split hsplit] at hsize
      obtain ⟨text, htext, -⟩ := map_eq_ok.mp hsize
      exact ⟨text, hquoted rfl ▸ htext⟩
    refine Or.inr ⟨kind, values, split_eq_ok.mp hsplit, ?_⟩
    cases hfault with
    | number h => exact .number h
    | count hkind hvalues => exact .count hkind (hlength ▸ hvalues)

end Directive

end TwoPass
