import TwoPass.Machine.Reader
import TwoPass.Proofs.Source.Directives
import TwoPass.Proofs.Source.References
import TwoPass.Proofs.Source.Statements
import TwoPass.Proofs.Strict.Steps

/-!
# Strict reading — lines, numbers, directives, references and instructions by position

Everything that is read off a line is read here once more with positions: a label is sliced off
in front of the first colon, the text of `.asciiz` between the first and the last quote, the
digits of a number behind its base mark, the name of a reference behind its mark.  Words are
taken from a list by their place in it, and an instruction is made only of a first operand
that is a register.

Each of these readings is total and gives what the reading without positions gives.  Whatever
the bytes are, the guards in front of each slice and each index are enough.
-/

namespace TwoPass

open Bytes

namespace Reference

/-- The bytes that a mark takes up are those of the parts behind it. -/
theorem filterMap_nameByte?_takeWhile (ps : List Piece) :
    (ps.takeWhile fun p => p.nameByte?.isSome).filterMap Piece.nameByte? =
      (ps.takeWhile fun p => p.nameByte?.isSome).flatMap Piece.text := by
  induction ps with
  | nil => rfl
  | cons p ps ih =>
      cases p with
      | label name => rfl
      | verbatim b =>
          by_cases hb : isWord b = true
          · simpa [Piece.nameByte?, Piece.text, hb] using ih
          · simp [Piece.nameByte?, hb]

/-- The parts of a line, one behind the other, are the line. -/
theorem flatMap_text_pieces (line : Bytes) : (pieces line).flatMap Piece.text = line := by
  induction line with
  | nil => rfl
  | cons b line ih =>
      show (Piece.push b (pieces line)).flatMap Piece.text = b :: line
      rw [Piece.push]
      split
      · rename_i hmark
        rw [List.flatMap_cons, Piece.text, filterMap_nameByte?_takeWhile, List.cons_append,
          ← List.flatMap_append, List.takeWhile_append_dropWhile, ih, hmark]
      · rw [List.flatMap_cons, ih]
        rfl

end Reference

namespace Strict

/-! ## Lines -/

/-- A line cut at its first colon, if what stands in front of it is a label. -/
def splitLabel (line : Bytes) : Strict (Option Bytes × Bytes) :=
  match firstIndex? ':'.toUInt8 line with
  | none => pure (none, line)
  | some colon => do
    let front ← slice line 0 colon
    if front.head? == some '.'.toUInt8 || front.any Label.isBreak then pure (none, line)
    else do
      let behind ← slice line (colon + 1) line.length
      pure (some front, trim behind)

/-- A line, whose label must be an identifier. -/
def statement (line : Bytes) : Strict Statement := do
  let (label, rest) ← splitLabel line
  match label with
  | none => pure ⟨none, Body.ofText rest⟩
  | some name => do
    total (Label.check name)
    pure ⟨some name, Body.ofText rest⟩

/-- What is in front of a byte can be cut off. -/
theorem slice_front (front : Bytes) (b : UInt8) (behind : Bytes) :
    slice (front ++ b :: behind) 0 front.length = total (.ok front) :=
  slice_eq [] (b :: behind) rfl rfl (Nat.zero_add _).symm

/-- What is behind a byte can be cut off. -/
theorem slice_behind (front : Bytes) (b : UInt8) (behind : Bytes) :
    slice (front ++ b :: behind) (front.length + 1) (front ++ b :: behind).length =
      total (.ok behind) :=
  slice_eq (front ++ [b]) [] (by simp) (by simp) (by simp; omega)

/-- A label is cut off at the colon that was found. -/
theorem splitLabel_eq (line : Bytes) : splitLabel line = total (.ok (Label.split line)) := by
  rw [splitLabel, Label.split]
  cases hcut : splitAt? ':'.toUInt8 line with
  | none =>
      rw [firstIndex?_of_not_mem (splitAt?_eq_none.mp hcut)]
      rfl
  | some cut =>
      obtain ⟨front, behind⟩ := cut
      obtain ⟨rfl, hfront⟩ := splitAt?_eq_some.mp hcut
      simp only [firstIndex?_append hfront, slice_front, slice_behind, total_ok_bind, pure_eq]
      split <;> rfl

theorem statement_eq (line : Bytes) : statement line = total (Statement.read line) := by
  rw [statement, splitLabel_eq, total_ok_bind, Statement.read]
  rcases Label.split line with ⟨_ | name, rest⟩
  · rfl
  · exact total_bind fun _ _ => rfl

/-! ## Numbers -/

/-- The base that a word is written in, and the digits behind its mark. -/
def splitBase (word : Bytes) : Strict (Nat × Bytes) :=
  if ['0'.toUInt8, 'x'.toUInt8].isPrefixOf word then Prod.mk 16 <$> slice word 2 word.length
  else if ['0'.toUInt8, 'b'.toUInt8].isPrefixOf word then Prod.mk 2 <$> slice word 2 word.length
  else pure (10, word)

/-- A number of a bounded width. -/
def number (word : Bytes) (width : Int) : Strict Nat := do
  let (base, digits) ← splitBase word
  match digits, Numeral.bits? width with
  | [], _ => throw (.notNumber word)
  | _, none => throw (.notNumber word)
  | digits, some bits =>
    match Numeral.readDigits base (Nat.pow 2 bits) 0 digits with
    | .ok n => pure n
    | .error .tooWide => throw .immediateRange
    | .error .malformed => throw (.notNumber word)

/-- The mark of a base is looked at in texts that have one. -/
theorem splitBase_eq (word : Bytes) : splitBase word = total (.ok (Numeral.splitBase word)) := by
  match word with
  | [] => rfl
  | [a] =>
      have hshort (x y : UInt8) : List.isPrefixOf [x, y] [a] = false := by
        simp [List.isPrefixOf]
      rw [splitBase, hshort, hshort]
      rfl
  | a :: b :: rest =>
      have hmark (x y : UInt8) :
          List.isPrefixOf [x, y] (a :: b :: rest) = (a == x && b == y) := by
        simp [List.isPrefixOf, BEq.comm]
      have hdigits : slice (a :: b :: rest) 2 (a :: b :: rest).length = total (.ok rest) :=
        slice_behind [a] b rest
      rw [splitBase, hmark, hmark, hdigits, Numeral.splitBase]
      split
      · rfl
      · split <;> rfl

theorem number_eq (word : Bytes) (width : Int) :
    number word width = total (readNumber word width) := by
  rw [number, splitBase_eq, total_ok_bind, readNumber, Numeral.read]
  obtain ⟨base, digits⟩ := Numeral.splitBase word
  cases digits with
  | nil => rfl
  | cons d digits =>
      cases Numeral.bits? width with
      | none => rfl
      | some bits =>
          dsimp only
          rcases Numeral.readDigits base (Nat.pow 2 bits) 0 (d :: digits) with _ | n
          · rename_i failure
            cases failure <;> rfl
          · rfl

/-! ## Directives -/

/-- The text between the first and the last quote of a line, which must not be the same. -/
def quoted (line : Bytes) : Strict Bytes :=
  match firstIndex? Directive.quote line, lastIndex? Directive.quote line with
  | some start, some stop =>
    if start = stop then throw .directiveSyntax else slice line (start + 1) stop
  | _, _ => throw .directiveSyntax

/-- A quotation is cut out between two quotes that were found. -/
theorem quoted_eq (line : Bytes) : quoted line = total (Directive.quoted line) := by
  -- no quote, one quote, or a first and a last one
  rcases occurrences Directive.quote line with hnone | ⟨front, behind, rfl, hfront, hbehind⟩ |
    ⟨front, text, behind, rfl, hfront, hbehind⟩
  · rw [quoted, firstIndex?_of_not_mem hnone, Directive.quoted, splitAt?_eq_none.mpr hnone]
    rfl
  · have hmissing : splitAt? Directive.quote behind.reverse = none :=
      splitAt?_eq_none.mpr (mt List.mem_reverse.mp hbehind)
    rw [quoted, firstIndex?_append hfront, lastIndex?_append front hbehind, Directive.quoted,
      splitAt?_eq_some.mpr ⟨rfl, hfront⟩]
    simp only [hmissing, if_true, throw_eq]
  · have hsecond : splitAt? Directive.quote (text ++ Directive.quote :: behind).reverse =
        some (behind.reverse, text.reverse) :=
      splitAt?_eq_some.mpr ⟨by simp, mt List.mem_reverse.mp hbehind⟩
    have hstart : firstIndex? Directive.quote
        (front ++ Directive.quote :: text ++ Directive.quote :: behind) = some front.length := by
      rw [List.append_assoc]
      exact firstIndex?_append hfront _
    -- the bounds are in order because the last quote is behind the first
    have hslice : slice (front ++ Directive.quote :: text ++ Directive.quote :: behind)
        (front.length + 1) (front ++ Directive.quote :: text).length = total (.ok text) :=
      slice_eq (front ++ [Directive.quote]) (Directive.quote :: behind) (by simp) (by simp)
        (by simp; omega)
    rw [quoted, hstart, lastIndex?_append _ hbehind, Directive.quoted]
    rw [List.append_assoc, List.cons_append] at hslice ⊢
    rw [splitAt?_eq_some.mpr ⟨rfl, hfront⟩]
    simp only [hsecond, List.reverse_reverse]
    rw [if_neg (by simp), hslice]

/-- The kind of a directive line, by its first word. -/
def kind (words : List Bytes) : Strict Directive.Kind :=
  if words.length = 0 then throw .directiveSyntax
  else do
    let keyword ← item words 0
    match Directive.Kind.ofKeyword? keyword with
    | none => throw (.directiveUnknown keyword)
    | some kind => pure kind

/-- The one number of a directive line, in `size` bytes. -/
def single (words : List Bytes) (size : Nat) : Strict Bytes :=
  if words.length = 2 then do
    let word ← item words 1
    let value ← number word (8 * size)
    pure (bigEndian size value)
  else throw .directiveSyntax

/-- The numbers of a directive line, in one byte each. -/
def array (words : List Bytes) : Strict Bytes := do
  let values ← slice words 1 words.length
  values.mapM fun word => do
    let value ← number word 8
    pure value.toUInt8

/-- The bytes that a directive line stands for. -/
def directive (line : Bytes) : Strict Bytes := do
  match ← kind line.words with
  | .byte => single line.words 1
  | .word => single line.words 2
  | .long => single line.words 4
  | .array => array line.words
  | .asciiz => do
    let text ← quoted line
    pure (text ++ [0])

/-- The number of bytes that a directive line stands for. -/
def directiveSize (line : Bytes) : Strict Nat := do
  match ← kind line.words with
  | .byte => pure 1
  | .word => pure 2
  | .long => pure 4
  | .array => pure (line.words.length - 1)
  | .asciiz => do
    let text ← quoted line
    pure (text.length + 1)

/-- A line has a kind where it can be cut into a directive and its values. -/
theorem kind_eq (line : Bytes) : kind line.words = total ((Directive.split line).map Prod.fst) := by
  rw [kind, Directive.split]
  cases hwords : line.words with
  | nil => rfl
  | cons keyword values =>
      rw [if_neg (by simp), item_eq rfl, total_ok_bind]
      dsimp only
      cases Directive.Kind.ofKeyword? keyword with
      | none => rfl
      | some k => rfl

theorem single_eq (keyword : Bytes) (values : List Bytes) (size : Nat) :
    single (keyword :: values) size = total (Directive.readSingle size values) := by
  match values with
  | [] => rfl
  | [word] =>
      show (number word (8 * size) >>= fun value => pure (bigEndian size value)) = _
      rw [number_eq]
      exact map_total _ _
  | _ :: _ :: values =>
      rw [single, if_neg (by simp)]
      rfl

/-- Every value of an array is looked at, whatever their number. -/
theorem array_eq (keyword : Bytes) (values : List Bytes) :
    array (keyword :: values) =
      total (values.mapM fun word => (readNumber word 8).map Nat.toUInt8) := by
  have hvalues : slice (keyword :: values) 1 (keyword :: values).length = total (.ok values) :=
    slice_eq [keyword] [] (List.append_nil _).symm rfl (Nat.add_comm _ _)
  rw [array, hvalues, total_ok_bind]
  refine mapM_total fun word _ => ?_
  rw [number_eq]
  exact map_total _ _

/-- What is done with the kind of a line can count on the words behind its keyword. -/
theorem kind_bind {β : Type} {line : Bytes} {F : Directive.Kind → Strict β}
    {f : Directive.Kind × List Bytes → Except Fault β}
    (h : ∀ k values, line.words = k.keyword :: values → F k = total (f (k, values))) :
    (kind line.words >>= F) = total (Directive.split line >>= f) := by
  rw [kind_eq]
  cases hsplit : Directive.split line with
  | error e => rfl
  | ok cut => exact h cut.1 cut.2 (Directive.split_eq_ok.mp hsplit)

theorem directive_eq (line : Bytes) : directive line = total (Directive.read line) := by
  refine kind_bind fun k values hwords => ?_
  cases k with
  | byte => rw [hwords]; exact single_eq _ _ _
  | word => rw [hwords]; exact single_eq _ _ _
  | long => rw [hwords]; exact single_eq _ _ _
  | array => rw [hwords]; exact array_eq _ _
  | asciiz =>
      dsimp only
      rw [quoted_eq]
      exact total_bind fun _ _ => rfl

theorem directiveSize_eq (line : Bytes) : directiveSize line = total (Directive.size line) := by
  refine kind_bind fun k values hwords => ?_
  cases k with
  | byte => rfl
  | word => rfl
  | long => rfl
  | array => rw [hwords]; rfl
  | asciiz =>
      dsimp only
      rw [quoted_eq]
      exact total_bind fun _ _ => rfl

/-! ## References -/

/-- The name in the text of a reference, which must start with the mark. -/
def nameOf? : Bytes → Option Bytes
  | [] => none
  | b :: name => if b = Reference.mark then some name else none

/-- What is written for a part of a line, given the text that the part matched. -/
def resolve (labels : LabelTable) (matched : Bytes) : Reference.Piece → Strict Bytes
  | .verbatim _ => pure matched
  | .label _ => do
    let name ← within (nameOf? matched)
    match labels.address? name with
    | some address => pure (decimal address)
    | none => throw (.labelUnknown name)

/-- What is written for the parts of a line from a position on. -/
def resolveFrom (labels : LabelTable) (line : Bytes) :
    Nat → List Reference.Piece → Strict (List Bytes)
  | _, [] => pure []
  | start, piece :: rest => do
    let stop := start + piece.text.length
    let matched ← slice line start stop
    let out ← resolve labels matched piece
    let outs ← resolveFrom labels line stop rest
    pure (out :: outs)

/-- A line with addresses in place of its references. -/
def substitute (labels : LabelTable) (line : Bytes) : Strict Bytes := do
  let outs ← resolveFrom labels line 0 (Reference.pieces line)
  pure outs.flatten

/-- The text that a reference matched starts with the mark. -/
theorem resolve_eq (labels : LabelTable) (piece : Reference.Piece) :
    resolve labels piece.text piece = total (piece.resolve labels) := by
  cases piece with
  | verbatim byte => rfl
  | label name =>
      have hname : nameOf? (Reference.Piece.label name).text = some name := by
        simp [nameOf?, Reference.Piece.text]
      rw [resolve, hname, within_some, total_ok_bind, Reference.Piece.resolve]
      cases labels.address? name with
      | none => rfl
      | some address => rfl

/-- References are cut out where they were found, from any place on. -/
theorem resolveFrom_eq (labels : LabelTable) {line : Bytes} {ps : List Reference.Piece}
    (before : Bytes) (h : line = before ++ ps.flatMap Reference.Piece.text) :
    resolveFrom labels line before.length ps =
      total (ps.mapM (Reference.Piece.resolve labels)) := by
  induction ps generalizing before with
  | nil => rfl
  | cons piece ps ih =>
      rw [List.flatMap_cons, ← List.append_assoc] at h
      have hstop : before.length + piece.text.length = (before ++ piece.text).length :=
        List.length_append.symm
      rw [resolveFrom, slice_eq before (ps.flatMap Reference.Piece.text) h rfl rfl, total_ok_bind,
        resolve_eq, hstop, ih _ h, List.mapM_cons]
      refine total_bind fun out _ => ?_
      exact total_bind fun outs _ => rfl

theorem substitute_eq (labels : LabelTable) (line : Bytes) :
    substitute labels line = total (Reference.substitute labels line) := by
  have hparts : resolveFrom labels line 0 (Reference.pieces line) =
      total ((Reference.pieces line).mapM (Reference.Piece.resolve labels)) :=
    resolveFrom_eq labels [] (Reference.flatMap_text_pieces line).symm
  rw [substitute, hparts]
  exact total_bind fun outs _ => rfl

/-! ## Instructions -/

/-- Whether a word starts with a digit. -/
def startsWithDigit (word : Bytes) : Strict Bool :=
  if word.length = 0 then pure false else isDigit <$> item word 0

/-- A second operand. -/
def second (opcode : Opcode) (word : Bytes) : Strict Operand := do
  let immediate ← startsWithDigit word
  if immediate then do
    let value ← number word 16
    if opcode = .movi then pure (.large (BitVec.ofNat 16 value))
    else if value ≤ 0xff then pure (.short (BitVec.ofNat 8 value))
    else throw .immediateRange
  else do
    let register ← total (Register.read word)
    pure (.ofRegister register)

/-- The first operand, if there is a word for it. -/
def firstOperand (words : List Bytes) : Strict Operand :=
  if 1 < words.length then do
    let word ← item words 1
    let register ← total (Register.read word)
    pure (.ofRegister register)
  else pure .none

/-- The second operand, if there is a word for it. -/
def secondOperand (opcode : Opcode) (words : List Bytes) : Strict Operand :=
  if 2 < words.length then do
    let word ← item words 2
    second opcode word
  else pure .none

/-- The instruction that a list of words spells, made of a first operand that is a register. -/
def instruction (words : List Bytes) : Strict Instruction :=
  if words.length = 0 then throw .opcodeMissing
  else if 3 < words.length then throw .operandExtra
  else do
    let mnemonic ← item words 0
    let opcode ← total (Opcode.read mnemonic)
    let a ← firstOperand words
    let b ← secondOperand opcode words
    within (Instruction.make? opcode a b)

theorem startsWithDigit_eq (word : Bytes) :
    startsWithDigit word = total (.ok (word.head?.any isDigit)) := by
  cases word with
  | nil => rfl
  | cons b word => rfl

theorem second_eq (opcode : Opcode) (word : Bytes) :
    second opcode word = total (Operand.readSecond opcode word) := by
  rw [second, startsWithDigit_eq, total_ok_bind, Operand.readSecond]
  split
  · rw [number_eq]
    refine total_bind fun value _ => ?_
    split
    · rfl
    · split <;> rfl
  · exact map_total _ _

theorem firstOperand_eq (op a : Bytes) (rest : List Bytes) :
    firstOperand (op :: a :: rest) = total ((Register.read a).map .ofRegister) := by
  rw [firstOperand, if_pos (by simp), item_eq rfl]
  exact map_total _ _

theorem secondOperand_eq (opcode : Opcode) (op a b : Bytes) :
    secondOperand opcode [op, a, b] = total (Operand.readSecond opcode b) := second_eq opcode b

/-- **THE FIRST OPERAND IS A REGISTER.**  Whatever the words are, an instruction is only made of
    operands that it can be made of. -/
theorem instruction_eq (words : List Bytes) :
    instruction words = total (Instruction.ofWords words) := by
  -- each number of words has its own operands to look at
  match words with
  | [] => rfl
  | [op] =>
      show (total (Opcode.read op) >>= _) = _
      exact total_bind fun opcode _ => rfl
  | [op, a] =>
      show (total (Opcode.read op) >>= _) = _
      refine total_bind fun opcode _ => ?_
      rw [firstOperand_eq, total_map_bind]
      exact total_bind fun r _ => rfl
  | [op, a, b] =>
      show (total (Opcode.read op) >>= _) = _
      refine total_bind fun opcode _ => ?_
      rw [firstOperand_eq, total_map_bind]
      refine total_bind fun r _ => ?_
      rw [secondOperand_eq]
      exact total_bind fun o _ => rfl
  | _ :: _ :: _ :: _ :: words =>
      rw [instruction, if_neg (by simp), if_pos (by simp)]
      rfl

end Strict

end TwoPass
