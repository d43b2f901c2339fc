import TwoPass.Proofs.Passes.Declarations
import TwoPass.Proofs.Passes.Renaming
import TwoPass.Proofs.Source.Printing
import TwoPass.Translator

/-!
# Translation — what a translator has done behind any lines

A translator can be fed lines that the second pass would never reach, since it goes on behind a
fault; up to there the two agree (`ofLine_eq`).  `Turns` lists what can come of one line: it is
refused, it does nothing, it starts the code section, or it emits data or an instruction, as the
section asks.  Only one of these changes the translator, and the line shows which one it
is (`startsCode_iff`).  So the translator behind any lines is in the code section if one of them
has started it (`inCode_after`).
-/

namespace TwoPass

/-- A line that starts the code section: `.code` or `.code:`, with or without a label in front. -/
inductive Translator.StartsCode : Bytes → Prop
  | bare {line : Bytes} (h : line = Bytes.ofString ".code" ∨ line = Bytes.ofString ".code:") :
      StartsCode line
  | labelled {name behind : Bytes} (hname : Label.isIdentifier name = true)
      (h : behind.trim = Bytes.ofString ".code" ∨ behind.trim = Bytes.ofString ".code:") :
      StartsCode (name ++ ':'.toUInt8 :: behind)

/-- An instruction that is read has the bits of its opcode and its first register. -/
theorem Instruction.eq_derive_of_read {line : Bytes} {i : Instruction} (h : read line = .ok i) :
    i = derive i.opcode i.a i.b := by
  obtain ⟨op, r, b, -, -, -, hi⟩ := spellable_of_ofWords h
  cases Option.some.inj hi
  rfl

/-- An instruction that is read and checked has a word, and all of its bits are derived. -/
theorem Emission.sound_of_readCode {text : Bytes} {i : Instruction} (h : readCode text = .ok i) :
    i.validate = .ok () ∧ (∃ w, i.encode = .ok w) ∧
      i.high = i.a.register.isHigh ∧ i.low = i.a.register.isLow ∧
      i.signed = i.opcode.isSigned ∧ i.setFlags = i.opcode.setsFlags := by
  obtain ⟨j, hread, h⟩ := bind_eq_ok.mp h
  obtain ⟨hlegal, h⟩ := check_bind_eq_ok.mp h
  cases pure_eq_ok.mp h
  obtain ⟨w, -, hword, -⟩ := Instruction.encode_of_validate hlegal
  refine ⟨hlegal, ⟨w, hword⟩, ?_⟩
  rw [Instruction.eq_derive_of_read hread]
  exact ⟨rfl, rfl, rfl, rfl⟩

namespace Translator

/-- These are the lines that are read as the marker of the code section. -/
theorem startsCode_iff {line : Bytes} :
    StartsCode line ↔ ∃ label, Statement.read line = .ok ⟨label, .marker .code⟩ := by
  constructor
  · intro h
    cases h with
    -- neither spelling of the marker has a label in it, though one has a colon
    | bare h =>
        have hsplit : Label.split line = (none, line) := by
          rcases h with rfl | rfl <;> rfl
        refine ⟨none, ?_⟩
        rw [Statement.read_of_split hsplit nofun, Body.ofText_eq_marker_code.mpr h]
    | @labelled name behind hname h =>
        have hsplit := Label.splits_iff.mp (Source.splits_label hname behind)
        have hlabel : ∀ name' ∈ some name, Label.isIdentifier name' = true := by
          rintro _ ⟨⟩
          exact hname
        refine ⟨some name, ?_⟩
        rw [Statement.read_of_split hsplit hlabel, Body.ofText_eq_marker_code.mpr h]
  · rintro ⟨label, h⟩
    -- of the three ways to cut a line, only one has a label
    have heq := Statement.eq_of_read h
    have hsplits := Label.splits_iff.mpr (rfl : Label.split line = Label.split line)
    generalize Label.split line = cut at heq hsplits
    obtain ⟨hlabel, hbody⟩ := Statement.mk.inj heq
    have hmarker := Body.ofText_eq_marker_code.mp hbody.symm
    cases hsplits with
    | bare => exact .bare hmarker
    | statement => exact .bare hmarker
    | label => exact .labelled (Statement.isIdentifier_of_read h hlabel) hmarker

/-! ## One line -/

/-- What can come of a line. -/
inductive Turns (t : Translator) (line : Bytes) : Translation → Prop
  | refused {f : Fault} (h : ¬ StartsCode line) : Turns t line ⟨.error f, t⟩
  | idle (h : ¬ StartsCode line) : Turns t line ⟨.ok none, t⟩
  | start (h : StartsCode line) : Turns t line ⟨.ok none, { t with inCode := true }⟩
  | data {bytes : Bytes} (h : ¬ StartsCode line) (hin : t.inCode = false) :
      Turns t line ⟨.ok (some (.data bytes)), t⟩
  | code {text : Bytes} {i : Instruction} (h : ¬ StartsCode line) (hin : t.inCode = true)
      (hread : Emission.readCode text = .ok i) : Turns t line ⟨.ok (some (.code i)), t⟩

/-- A line that emits something emits what its section asks for. -/
theorem turns_ofText {t : Translator} {line text : Bytes} (h : ¬ StartsCode line) :
    t.Turns line ⟨(Emission.ofText t.labels t.inCode text).map some, t⟩ := by
  cases hresult : Emission.ofText t.labels t.inCode text with
  | error f => exact .refused h
  | ok e =>
      cases hin : t.inCode with
      | false =>
          rw [hin, Emission.ofText_data] at hresult
          obtain ⟨filled, -, hemission⟩ := bind_eq_ok.mp hresult
          obtain ⟨bytes, -, rfl⟩ := map_eq_ok.mp hemission
          exact .data h hin
      | true =>
          rw [hin, Emission.ofText_code] at hresult
          obtain ⟨filled, -, hemission⟩ := bind_eq_ok.mp hresult
          obtain ⟨i, hread, rfl⟩ := map_eq_ok.mp hemission
          exact .code h hin hread

/-- A line that is read is translated as what stands behind its label. -/
theorem translate_of_read {t : Translator} {line : Bytes} {st : Statement}
    (h : Statement.read line = .ok st) : t.translate line = t.translateBody st.body := by
  rw [translate, h]

/-- A line that is not read changes nothing. -/
theorem translate_of_error {t : Translator} {line : Bytes} {f : Fault}
    (h : Statement.read line = .error f) : t.translate line = ⟨.error f, t⟩ := by
  rw [translate, h]

/-- Behind its label, a line starts the code section or does one of the other things. -/
theorem turns_translateBody {t : Translator} {line : Bytes} {body : Body}
    (hstarts : StartsCode line ↔ body = .marker .code) : t.Turns line (t.translateBody body) := by
  cases body with
  | nothing => exact .idle (mt hstarts.mp nofun)
  | text text => exact turns_ofText (mt hstarts.mp nofun)
  | marker m =>
      by_cases hm : m = .code
      · subst hm
        exact .start (hstarts.mpr rfl)
      · have hnot : ¬ StartsCode line := fun h => hm (Body.marker.inj (hstarts.mp h))
        rw [translateBody]
        cases henter : Section.enter t.inCode m with
        | error f => exact .refused hnot
        | ok inCode =>
            have hsame := Section.enter_eq_ok henter
            rw [decide_eq_false hm, Bool.or_false] at hsame
            subst hsame
            exact .idle hnot

/-- Every line is translated in one of these ways. -/
theorem turns_translate (t : Translator) (line : Bytes) : t.Turns line (t.translate line) := by
  cases hread : Statement.read line with
  | error f =>
      rw [translate_of_error hread]
      refine .refused fun hstarts => ?_
      obtain ⟨label, hlabel⟩ := startsCode_iff.mp hstarts
      cases hread.symm.trans hlabel
  | ok st =>
      obtain ⟨label, body⟩ := st
      rw [translate_of_read hread]
      refine turns_translateBody ?_
      rw [startsCode_iff, hread]
      constructor
      · rintro ⟨label', h⟩
        exact (Statement.mk.inj (Except.ok.inj h)).2
      · rintro rfl
        exact ⟨label, rfl⟩

namespace Turns

variable {t : Translator} {line : Bytes} {out : Translation}

/-- Behind a line, the code section has started if it had before or starts there. -/
theorem inCode (h : t.Turns line out) :
    out.translator.inCode = true ↔ t.inCode = true ∨ StartsCode line := by
  cases h with
  | refused hnot => exact (or_iff_left hnot).symm
  | idle hnot => exact (or_iff_left hnot).symm
  | start hstarts => exact iff_of_true rfl (.inr hstarts)
  | data hnot hin => exact (or_iff_left hnot).symm
  | code hnot hin hread => exact (or_iff_left hnot).symm

/-- No line changes the table. -/
theorem labels (h : t.Turns line out) : out.translator.labels = t.labels := by
  cases h <;> rfl

/-- A line that is refused or emits something leaves the translator as it was. -/
theorem translator_eq (h : t.Turns line out) (hresult : out.result ≠ .ok none) :
    out.translator = t := by
  cases h with
  | refused hnot => rfl
  | idle hnot => exact absurd rfl hresult
  | start hstarts => exact absurd rfl hresult
  | data hnot hin => rfl
  | code hnot hin hread => rfl

/-- Data stands outside of the code section. -/
theorem inCode_of_data {bytes : Bytes} (h : t.Turns line out)
    (hresult : out.result = .ok (some (.data bytes))) : t.inCode = false := by
  cases h with
  | data hnot hin => exact hin
  | _ => cases hresult

/-- Instructions stand in the code section, and have been read and checked. -/
theorem inCode_of_code {i : Instruction} (h : t.Turns line out)
    (hresult : out.result = .ok (some (.code i))) :
    t.inCode = true ∧ ∃ text, Emission.readCode text = .ok i := by
  cases h with
  | code hnot hin hread =>
      cases hresult
      exact ⟨hin, _, hread⟩
  | _ => cases hresult

end Turns

/-- The second pass takes a line for what a translator in its section makes of it. -/
theorem ofLine_eq (t : Translator) (line : Bytes) :
    Emission.ofLine t.labels t.inCode line =
      (t.translate line).result.map fun emission =>
        ((t.translate line).translator.inCode, emission) := by
  cases hread : Statement.read line with
  | error f =>
      rw [translate_of_error hread, Emission.ofLine, hread]
      rfl
  | ok st =>
      rw [translate_of_read hread, Emission.ofLine_of_read hread]
      cases st.body with
      | nothing => rfl
      | marker m =>
          rw [translateBody, Emission.ofBody]
          cases Section.enter t.inCode m with
          | error f => rfl
          | ok inCode => rfl
      | text text =>
          rw [translateBody, Emission.ofBody]
          cases Emission.ofText t.labels t.inCode text with
          | error f => rfl
          | ok e => rfl

/-- The result is what the second pass emits for the line. -/
theorem result_eq (t : Translator) (line : Bytes) :
    (t.translate line).result = (Emission.ofLine t.labels t.inCode line).map Prod.snd := by
  rw [ofLine_eq]
  cases (t.translate line).result with
  | error f => rfl
  | ok emission => rfl

/-! ## Any number of lines -/

theorem after_append (t : Translator) (before behind : List Bytes) :
    t.after (before ++ behind) = (t.after before).after behind := List.foldl_append

/-- What comes of a line is what the translator behind the lines before it makes of it. -/
theorem getElem?_translateAll (t : Translator) (before : List Bytes) (line : Bytes)
    (behind : List Bytes) :
    (t.translateAll (before ++ line :: behind))[before.length]? =
      some ((t.after before).translate line) := by
  induction before generalizing t with
  | nil => rfl
  | cons first before ih => exact ih (t.translate first).translator

/-- Any number of lines does not change the table, either. -/
theorem labels_after (t : Translator) (lines : List Bytes) : (t.after lines).labels = t.labels := by
  induction lines generalizing t with
  | nil => rfl
  | cons line lines ih => exact (ih _).trans (turns_translate t line).labels

/-- A translator is in the code section once a line has started it. -/
theorem inCode_after (t : Translator) (lines : List Bytes) :
    (t.after lines).inCode = true ↔ t.inCode = true ∨ ∃ line ∈ lines, StartsCode line := by
  induction lines generalizing t with
  | nil => simp [after]
  | cons line lines ih =>
      show ((t.translate line).translator.after lines).inCode = true ↔ _
      rw [ih, (turns_translate t line).inCode, or_assoc, List.exists_mem_cons_iff]

/-- **WHAT A TRANSLATOR DOES.**  Feed any lines to a new translator, and go on behind faults.  It is
    in the code section exactly if one of the lines has started it, which a line does by being
    `.code` or `.code:` behind its label, if it has one.

    Each line has the result that the second pass has for it.  A fault leaves the section as it
    is, and no line leads back out of the code section.  Data is emitted only outside of it, and
    instructions only inside; they are legal, have a word, and have the bits of their opcode and of
    their first register. -/
theorem translator_runs (labels : LabelTable) :
    (∀ lines, ((new labels).after lines).inCode = true ↔ ∃ line ∈ lines, StartsCode line) ∧
    ∀ (before : List Bytes) (line : Bytes) (behind : List Bytes), ∃ out : Translation,
      ((new labels).translateAll (before ++ line :: behind))[before.length]? = some out ∧
      out.translator = (new labels).after (before ++ [line]) ∧
      out.result =
        (Emission.ofLine labels ((new labels).after before).inCode line).map Prod.snd ∧
      (∀ f, out.result = .error f →
        out.translator.inCode = ((new labels).after before).inCode) ∧
      (((new labels).after before).inCode = true → out.translator.inCode = true) ∧
      (∀ bytes, out.result = .ok (some (.data bytes)) →
        ((new labels).after before).inCode = false ∧ out.translator.inCode = false) ∧
      (∀ i, out.result = .ok (some (.code i)) →
        ((new labels).after before).inCode = true ∧ out.translator.inCode = true ∧
        i.validate = .ok () ∧ (∃ w, i.encode = .ok w) ∧
        i.high = i.a.register.isHigh ∧ i.low = i.a.register.isLow ∧
        i.signed = i.opcode.isSigned ∧ i.setFlags = i.opcode.setsFlags) := by
  refine ⟨fun lines => ?_, fun before line behind => ?_⟩
  · rw [inCode_after]
    exact or_iff_right nofun
  · have hlabels : ((new labels).after before).labels = labels := labels_after (new labels) before
    -- what is left is about one line and any translator with these labels
    generalize ht : (new labels).after before = t at hlabels
    refine ⟨t.translate line, ?_, ?_, ?_, ?_⟩
    · rw [getElem?_translateAll, ht]
    · rw [after_append, ht]
      rfl
    · rw [← hlabels]
      exact result_eq t line
    · have hturns := turns_translate t line
      refine ⟨?_, ?_, ?_, ?_⟩
      · intro f hf
        rw [hturns.translator_eq (by rw [hf]; nofun)]
      · intro hin
        exact hturns.inCode.mpr (.inl hin)
      · intro bytes hdata
        rw [hturns.translator_eq (by rw [hdata]; nofun)]
        exact ⟨hturns.inCode_of_data hdata, hturns.inCode_of_data hdata⟩
      · intro i hcode
        obtain ⟨hin, text, hread⟩ := hturns.inCode_of_code hcode
        obtain ⟨hlegal, hword, hbits⟩ := Emission.sound_of_readCode hread
        exact ⟨hin, hturns.inCode.mpr (.inl hin), hlegal, hword, hbits⟩

-- neither a label that is no name nor a blank in front lets a line start the code section
example :
    ((new ⟨[]⟩).translateAll (["a: .byte 1", "9: .code", " .code", "b: .code:", ".data", "nop"].map
      Bytes.ofString)).map (·.translator.inCode) = [false, false, false, true, true, true] := rfl

end Translator

end TwoPass
