import TwoPass.Proofs.Passes.Locations
import TwoPass.Proofs.Source.Faults

/-!
# Kinds — of which kind a refusal is

A fault is known to its callers by the kinds in its chain.  `FaultKind.lineChains` lists the
chains that the fault of a single line can have, whichever pass finds it.  Each reader of a line
fails only with a chain of this list (`Fault.IsListed`), and so does a line as a whole; the fault
of a source is one of these with its line in front.  What is asked about kinds is then a question
about the list.
-/

namespace TwoPass

/-- The chains that the fault of a line can have before the line is named. -/
def FaultKind.lineChains : List (List FaultKind) :=
  [ -- labels, markers and keywords
    [labelInvalid], [sectionOrder], [directiveUnknown], [directiveSyntax],
    -- references and numbers
    [labelUnknown], [immediateRange], [notNumber],
    -- instructions as text
    [opcodeMissing], [operandExtra], [opcodeUnknown], [registerUnknown],
    -- instructions as values
    [illegal, opcodeUnknown], [illegal, operandShape], [illegal, registerCode],
    [illegal, registerUse, registerOperand], [illegal, registerPair, registerCode],
    [illegal, immediateTooLarge] ]

namespace Fault

/-- A fault as a line can have it. -/
def IsListed (f : Fault) : Prop := f.chain ∈ FaultKind.lineChains

theorem OfNumber.isListed {f : Fault} (h : OfNumber f) : f.IsListed := by
  cases h <;> simp [IsListed, FaultKind.lineChains]

theorem OfInstruction.isListed {f : Fault} (h : OfInstruction f) : f.IsListed := by
  cases h with
  | number h => exact h.isListed
  | _ => simp [IsListed, FaultKind.lineChains]

/-- A broken rule is listed under the instruction that breaks it, and not on its own. -/
theorem OfRule.isListed {f : Fault} (h : OfRule f) (i : Instruction) :
    (Fault.illegal i f).IsListed := by
  cases h <;> simp [IsListed, FaultKind.lineChains]

theorem isListed_directiveSyntax : IsListed .directiveSyntax := by
  simp [IsListed, FaultKind.lineChains]

end Fault

open Fault

/-! ## Readers of a line -/

/-- A statement is refused for its label. -/
theorem Statement.failsOnly_read (line : Bytes) : FailsOnly IsListed (read line) := by
  rw [read]
  split
  · exact .ok _
  · rename_i name rest _
    refine FailsOnly.bind ?_ fun _ => .ok _
    rw [Label.check]
    split
    · exact .ok _
    · exact .error (by simp [IsListed, FaultKind.lineChains])

/-- A section is refused for the order. -/
theorem Section.failsOnly_enter (inCode : Bool) (s : Section) :
    FailsOnly IsListed (enter inCode s) := by
  rw [enter]
  split
  · exact .ok _
  · split
    · exact .error (by simp [IsListed, FaultKind.lineChains])
    · exact .ok _

namespace Directive

/-- A directive is refused for its keyword. -/
theorem failsOnly_split (line : Bytes) : FailsOnly IsListed (split line) := by
  rw [split]
  split
  · exact .error isListed_directiveSyntax
  · split
    · exact .error (by simp [IsListed, FaultKind.lineChains])
    · exact .ok _

theorem failsOnly_quoted (line : Bytes) : FailsOnly IsListed (quoted line) := by
  rw [quoted]
  split
  · exact .error isListed_directiveSyntax
  · split
    · exact .error isListed_directiveSyntax
    · exact .ok _

/-- Values are refused for what they are, or for their number. -/
theorem failsOnly_readAs (line : Bytes) (values : List Bytes) (kind : Kind) :
    FailsOnly IsListed (readAs line values kind) := by
  cases kind with
  | array =>
      refine FailsOnly.mapM (fun word => ?_) values
      exact ((failsOnly_readNumber word 8).imp fun _ => OfNumber.isListed).map
  | asciiz => exact (failsOnly_quoted line).map
  | byte | word | long =>
      intro f hf
      rcases readSingle_eq_error hf with hnumber | ⟨rfl, -⟩
      · exact hnumber.isListed
      · exact isListed_directiveSyntax

theorem failsOnly_sizeAs (line : Bytes) (values : List Bytes) (kind : Kind) :
    FailsOnly IsListed (sizeAs line values kind) := by
  cases kind with
  | asciiz => exact (failsOnly_quoted line).map
  | _ => exact .ok _

/-- A directive is refused for its first word, or as one of its kind. -/
theorem failsOnly_read (line : Bytes) : FailsOnly IsListed (read line) := by
  intro f hf
  cases hsplit : split line with
  | error f' =>
      rw [read, hsplit] at hf
      cases hf
      exact failsOnly_split line _ hsplit
  | ok cut =>
      rw [read_of_split hsplit] at hf
      exact failsOnly_readAs line cut.2 cut.1 f hf

theorem failsOnly_size (line : Bytes) : FailsOnly IsListed (size line) := by
  intro f hf
  cases hsplit : split line with
  | error f' =>
      rw [size, hsplit] at hf
      cases hf
      exact failsOnly_split line _ hsplit
  | ok cut =>
      rw [size_of_split hsplit] at hf
      exact failsOnly_sizeAs line cut.2 cut.1 f hf

end Directive

/-! ## Lines in both passes -/

/-- The first pass refuses a line for a fault of the list. -/
theorem Layout.failsOnly_step (l : Layout) (text : Bytes) : FailsOnly IsListed (l.step text) := by
  refine (Statement.failsOnly_read text).bind fun st => ?_
  cases st.body with
  | nothing => exact .ok _
  | marker m => exact (Section.failsOnly_enter _ m).bind fun _ => .ok _
  | text statement =>
      rw [advance]
      split
      · exact .ok _
      · exact (Directive.failsOnly_size statement).bind fun _ => .ok _

namespace Emission

/-- References are refused for a name without an address. -/
theorem failsOnly_fill (labels : LabelTable) (inCode : Bool) (text : Bytes) :
    FailsOnly IsListed (fill labels inCode text) := by
  intro f hf
  obtain ⟨name, rfl⟩ := fill_eq_error hf
  simp [IsListed, FaultKind.lineChains]

theorem failsOnly_readCode (text : Bytes) : FailsOnly IsListed (readCode text) := by
  refine ((Instruction.failsOnly_read text).imp fun _ => OfInstruction.isListed).bind fun i => ?_
  refine FailsOnly.bind ?_ fun _ => .ok _
  intro f hf
  obtain ⟨cause, rfl, hrule⟩ := Instruction.validate_eq_error hf
  exact hrule.isListed i

/-- Whatever stands in a line of either section is refused for a listed fault. -/
theorem failsOnly_ofText (labels : LabelTable) (inCode : Bool) (text : Bytes) :
    FailsOnly IsListed (ofText labels inCode text) := by
  refine (failsOnly_fill labels inCode text).bind fun filled => ?_
  split
  · exact (failsOnly_readCode filled).bind fun _ => .ok _
  · exact (Directive.failsOnly_read filled).bind fun _ => .ok _

theorem failsOnly_ofLine (labels : LabelTable) (inCode : Bool) (line : Bytes) :
    FailsOnly IsListed (ofLine labels inCode line) := by
  refine (Statement.failsOnly_read line).bind fun st => ?_
  cases st.body with
  | nothing => exact .ok _
  | marker m => exact (Section.failsOnly_enter inCode m).bind fun _ => .ok _
  | text text => exact (failsOnly_ofText labels inCode text).bind fun _ => .ok _

end Emission

/-- The second pass refuses a line for a fault of the list. -/
theorem Assembly.failsOnly_step (labels : LabelTable) (s : Assembly) (line : SourceLine) :
    FailsOnly IsListed (s.step labels line) :=
  fun f hf => Emission.failsOnly_ofLine labels s.inCode line.text f (ofLine_of_step_error hf)

/-- A source is refused for a fault of the list, with its line in front. -/
theorem exists_isListed_of_assemble {c : Config} {texts : List Bytes} {f : Fault}
    (h : assemble c texts = .error f) :
    ∃ (k : Nat) (text : Bytes) (cause : Fault), f = .atLine k text.trim cause ∧ cause.IsListed := by
  rcases assemble_eq_error.mp h with hfirst | ⟨labels, -, hsecond⟩
  · obtain ⟨k, text, cause, rfl, hstops⟩ := Layout.exists_stopsAt hfirst
    obtain ⟨l, -, hline⟩ := hstops.refused
    obtain ⟨cause', hstep, hcause⟩ := mapError_eq_error.mp hline
    cases hcause
    exact ⟨k, text, cause, rfl, Layout.failsOnly_step l text.trim cause hstep⟩
  · obtain ⟨k, text, cause, rfl, hstops⟩ := Assembly.exists_stopsAt hsecond
    obtain ⟨s, -, hline⟩ := hstops.refused
    obtain ⟨cause', hstep, hcause⟩ := mapError_eq_error.mp hline
    cases hcause
    exact ⟨k, text, cause, rfl, Assembly.failsOnly_step labels s _ cause hstep⟩

/-! ## Kinds of a source's fault -/

namespace FaultKind

/-- The kinds that only an instruction as a value can be refused for. -/
def ruled : List FaultKind := [operandShape, immediateTooLarge, registerCode, registerOperand]

/-- The basic kinds in a chain. -/
def basicIn (chain : List FaultKind) : List FaultKind := basic.filter fun k => k ∈ chain

/-- Behind its line, a chain of the list has the one basic kind that it ends with. -/
theorem basicIn_lineChains : ∀ chain ∈ lineChains, ∃ kind ∈ (atLine :: chain).getLast?,
    basicIn (atLine :: chain) = if kind = notNumber then [] else [kind] := by
  decide

/-- Source is never to blame for the configuration. -/
theorem configInvalid_notMem_lineChains :
    ∀ chain ∈ lineChains, configInvalid ∉ basicIn (atLine :: chain) := by
  decide

/-- What a rule refuses stands behind the instruction that the rule is about. -/
theorem ruled_lineChains : ∀ chain ∈ lineChains, ∀ kind ∈ ruled, kind ∈ atLine :: chain →
    chain = illegal :: chain.tail ∧ kind ∈ chain.tail := by
  decide

end FaultKind

/-- **ONE KIND EACH.**  A fault of the assembler names a line.  It is of exactly one basic kind,
    that of its innermost part, unless that part is a word that is no number, which is of none.
    It is never about the configuration, and what only the rules of the machine can refuse is
    found under the instruction that breaks them. -/
theorem assemble_fault_kinds (c : Config) (texts : List Bytes) (f : Fault)
    (h : assemble c texts = .error f) :
    f.chain.head? = some .atLine ∧
    (∃ kind, f.chain.getLast? = some kind ∧
      f.kinds = if kind = .notNumber then [] else [kind]) ∧
    FaultKind.configInvalid ∉ f.kinds ∧
    ∀ kind ∈ FaultKind.ruled, kind ∈ f.chain →
      ∃ inner, f.chain = .atLine :: .illegal :: inner ∧ kind ∈ inner := by
  obtain ⟨k, text, cause, rfl, hlisted⟩ := exists_isListed_of_assemble h
  refine ⟨rfl, ?_, FaultKind.configInvalid_notMem_lineChains cause.chain hlisted, ?_⟩
  · obtain ⟨kind, hlast, hkinds⟩ := FaultKind.basicIn_lineChains cause.chain hlisted
    exact ⟨kind, hlast, hkinds⟩
  · intro kind hkind hmem
    obtain ⟨hchain, hinner⟩ := FaultKind.ruled_lineChains cause.chain hlisted kind hkind hmem
    exact ⟨cause.chain.tail, congrArg (FaultKind.atLine :: ·) hchain, hinner⟩

/-- A source with a pair of registers that do not go together. -/
def mispairedSource : List Bytes := [".code", "move al, bh"].map Bytes.ofString

/-- The fault of the pair. -/
def mispairedFault : Fault :=
  .atLine 2 (Bytes.ofString "move al, bh")
    (.illegal (.derive ⟨9⟩ (.ofRegister ⟨3⟩) (.ofRegister ⟨5⟩)) (.registerPair ⟨3⟩ ⟨5⟩))

/-- A source with a word that is no number. -/
def uncountedSource : List Bytes := [".array 1 0xfg"].map Bytes.ofString

/-- The fault of the word. -/
def uncountedFault : Fault :=
  .atLine 1 (Bytes.ofString ".array 1 0xfg") (.notNumber (Bytes.ofString "0xfg"))

theorem assemble_fault_kinds_mispairedSource :
    (assemble .default mispairedSource = .error mispairedFault ∧
      mispairedFault.kinds = [.registerCode] ∧
      ∃ inner, mispairedFault.chain = .atLine :: .illegal :: inner ∧ .registerCode ∈ inner) ∧
    assemble .default uncountedSource = .error uncountedFault ∧ uncountedFault.kinds = [] := by
  have hpair : assemble .default mispairedSource = .error mispairedFault := by decide +kernel
  have hnumber : assemble .default uncountedSource = .error uncountedFault := by decide +kernel
  constructor
  · obtain ⟨-, ⟨kind, hlast, hkinds⟩, -, hruled⟩ :=
      assemble_fault_kinds .default mispairedSource mispairedFault hpair
    cases hlast
    exact ⟨hpair, hkinds, hruled .registerCode (by decide) (by decide)⟩
  · obtain ⟨-, ⟨kind, hlast, hkinds⟩, -⟩ :=
      assemble_fault_kinds .default uncountedSource uncountedFault hnumber
    cases hlast
    exact ⟨hnumber, hkinds⟩

end TwoPass
