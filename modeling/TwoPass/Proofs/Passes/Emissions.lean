import TwoPass.Assembler
import TwoPass.Proofs.Machine.Stream
import TwoPass.Proofs.Program.Chains
import TwoPass.Proofs.Source.Statements

/-!
# Emissions — what the second pass adds, line by line

`Moves` lists what one line can do to the second pass: nothing, a change of section, or one
item at the next address of its section.  `Emits` is what a whole stretch of lines does: it
adds data items and then code items, each kind in a chain that starts where the section had
arrived and ends where it arrives now.  A line does this (`emits_of_moves`), two stretches in
a row do it together (`Emits.trans`), and so any run does (`emits_of_run`).
-/

namespace TwoPass

/-- What the reading of a line lets through. -/
def Emission.Legal : Emission → Prop
  | .data _ => True
  | .code i => i.validate = .ok ()

/-- A legal emission has as many bytes as it takes up addresses. -/
theorem Item.bytes_ofEmission {e : Emission} (h : e.Legal) (number : Int) (line : Bytes)
    (address : Int) :
    ∃ bytes, (Item.ofEmission number line address e).bytes = .ok bytes ∧ bytes.length = e.size := by
  cases e with
  | data bytes => exact ⟨bytes, rfl, rfl⟩
  | code i =>
      obtain ⟨w, -, henc, -, hlong, -⟩ := Instruction.encode_of_validate h
      refine ⟨w.bytes, ?_, ?_⟩
      · exact map_eq_ok.mpr ⟨w, henc, rfl⟩
      · rw [Word.length_bytes, Word.size, hlong]
        rfl

namespace Emission

variable {labels : LabelTable} {inCode : Bool} {line : Bytes} {st : Statement}

/-- What a body emits, if anything, and whether the next line is in the code section. -/
def ofBody (labels : LabelTable) (inCode : Bool) : Body → Except Fault (Bool × Option Emission)
  | .nothing => .ok (inCode, none)
  | .marker m => (Section.enter inCode m).map fun entered => (entered, none)
  | .text text => (ofText labels inCode text).map fun e => (inCode, some e)

/-- A line emits what its body emits. -/
theorem ofLine_of_read (h : Statement.read line = .ok st) :
    ofLine labels inCode line = ofBody labels inCode st.body := by
  obtain ⟨label, body⟩ := st
  rw [ofLine, h]
  cases body with
  | nothing => rfl
  | marker m => rfl
  | text text => rfl

/-- In the data section, the text of a statement is a directive. -/
theorem ofText_data (labels : LabelTable) (text : Bytes) :
    ofText labels false text =
      fill labels false text >>= fun filled => (Directive.read filled).map data := rfl

/-- In the code section, it is an instruction. -/
theorem ofText_code (labels : LabelTable) (text : Bytes) :
    ofText labels true text =
      fill labels true text >>= fun filled => (readCode filled).map code := rfl

end Emission

/-- The line that an item comes from. -/
def Item.origin (i : Item) : Int × Bytes := (i.number, i.line)

/-- A line as the origin of items. -/
def SourceLine.origin (l : SourceLine) : Int × Bytes := (l.number, l.text)

namespace Assembly

variable {labels : LabelTable} {s t s' : Assembly} {line : SourceLine}
  {lines lines' : List SourceLine}

/-- What a line with a given body can do to the second pass. -/
inductive Moves (labels : LabelTable) (line : SourceLine) (s : Assembly) : Body → Assembly → Prop
  | nothing : Moves labels line s .nothing s
  | marker {m : Section} {inCode : Bool} (henter : Section.enter s.inCode m = .ok inCode) :
      Moves labels line s (.marker m) { s with inCode }
  | data {text filled bytes : Bytes} (hin : s.inCode = false)
      (hfill : Emission.fill labels false text = .ok filled)
      (hread : Directive.read filled = .ok bytes) :
      Moves labels line s (.text text) (s.add line (.data bytes))
  | code {text filled : Bytes} {i : Instruction} (hin : s.inCode = true)
      (hfill : Emission.fill labels true text = .ok filled)
      (hread : Instruction.read filled = .ok i) (hlegal : i.validate = .ok ()) :
      Moves labels line s (.text text) (s.add line (.code i))

/-- A line that is accepted does one of these things. -/
theorem moves_of_step (h : s.step labels line = .ok s') :
    ∃ st, Statement.read line.text = .ok st ∧ Moves labels line s st.body s' := by
  obtain ⟨⟨inCode, emission⟩, hline, h⟩ := bind_eq_ok.mp h
  obtain ⟨st, hst, hline⟩ := bind_eq_ok.mp hline
  refine ⟨st, hst, ?_⟩
  cases hbody : st.body with
  | nothing =>
      rw [hbody] at hline
      cases pure_eq_ok.mp hline
      cases pure_eq_ok.mp h
      exact .nothing
  | marker m =>
      rw [hbody] at hline
      obtain ⟨entered, henter, hline⟩ := bind_eq_ok.mp hline
      cases pure_eq_ok.mp hline
      cases pure_eq_ok.mp h
      exact .marker henter
  | text text =>
      rw [hbody] at hline
      obtain ⟨e, he, hline⟩ := bind_eq_ok.mp hline
      cases pure_eq_ok.mp hline
      cases pure_eq_ok.mp h
      -- references are filled in first, in either section
      obtain ⟨filled, hfill, he⟩ := bind_eq_ok.mp he
      cases hin : s.inCode with
      | false =>
          rw [hin] at hfill he
          obtain ⟨bytes, hread, he⟩ := bind_eq_ok.mp he
          cases pure_eq_ok.mp he
          exact hin ▸ .data hin hfill hread
      | true =>
          rw [hin] at hfill he
          obtain ⟨i, hcode, he⟩ := bind_eq_ok.mp he
          obtain ⟨i', hread, hcode⟩ := bind_eq_ok.mp hcode
          obtain ⟨hlegal, hcode⟩ := check_bind_eq_ok.mp hcode
          cases pure_eq_ok.mp hcode
          cases pure_eq_ok.mp he
          exact hin ▸ .code hin hfill hread hlegal

/-- What a line emits is put at the next address of its section. -/
theorem step_of_ofLine {inCode : Bool} {emission : Option Emission}
    (h : Emission.ofLine labels s.inCode line.text = .ok (inCode, emission)) :
    s.step labels line =
      .ok (emission.elim { s with inCode } fun e => Assembly.add { s with inCode } line e) := by
  rw [step, h]
  cases emission <;> rfl

/-- A line that can do one of these things is accepted and does it. -/
theorem step_of_moves {st : Statement} (hst : Statement.read line.text = .ok st)
    (h : Moves labels line s st.body s') : s.step labels line = .ok s' := by
  have hline : Emission.ofLine labels s.inCode line.text = _ := Emission.ofLine_of_read hst
  generalize st.body = body at h hline
  cases h with
  | nothing => exact step_of_ofLine hline
  | marker henter =>
      rw [Emission.ofBody, henter] at hline
      exact step_of_ofLine hline
  -- the premises are those of the reading of the text, put together again
  | @data text filled bytes hin hfill hread =>
      have htext : Emission.ofText labels s.inCode text = .ok (.data bytes) := by
        rw [hin, Emission.ofText_data]
        exact bind_eq_ok.mpr ⟨filled, hfill, map_eq_ok.mpr ⟨bytes, hread, rfl⟩⟩
      rw [Emission.ofBody, htext] at hline
      exact step_of_ofLine hline
  | @code text filled i hin hfill hread hlegal =>
      have hcode : Emission.readCode filled = .ok i :=
        bind_eq_ok.mpr ⟨i, hread, check_bind_eq_ok.mpr ⟨hlegal, rfl⟩⟩
      have htext : Emission.ofText labels s.inCode text = .ok (.code i) := by
        rw [hin, Emission.ofText_code]
        exact bind_eq_ok.mpr ⟨filled, hfill, map_eq_ok.mpr ⟨i, hcode, rfl⟩⟩
      rw [Emission.ofBody, htext] at hline
      exact step_of_ofLine hline

/-- What a stretch of lines does to the second pass: it adds data items and then code
    items, each kind in a chain from where its section had arrived to where it arrives. -/
structure Emits (lines : List SourceLine) (s s' : Assembly) (ds cs : List Item) : Prop where
  items : s'.items = (ds ++ cs).reverse ++ s.items
  data : Chained s.dataNext ds s'.dataNext
  code : Chained s.codeNext cs s'.codeNext
  isData : ∀ i ∈ ds, i.data.isSome = true ∧ i.instruction = none
  isCode : ∀ i ∈ cs, i.data = none ∧ i.instruction.isSome = true
  stays : s.inCode = true → ds = [] ∧ s'.inCode = true
  waits : s'.inCode = false → cs = []
  origins : ((ds ++ cs).map Item.origin).Sublist (lines.map SourceLine.origin)

/-- Lines that change nothing but the section, and that only forwards, emit nothing. -/
theorem Emits.idle {inCode : Bool} (h : s.inCode = true → inCode = true) :
    Emits lines s { s with inCode } [] [] where
  items := rfl
  data := .nil _
  code := .nil _
  isData := fun _ hi => absurd hi List.not_mem_nil
  isCode := fun _ hi => absurd hi List.not_mem_nil
  stays hin := ⟨rfl, h hin⟩
  waits _ := rfl
  origins := List.nil_sublist _

/-- The code section is never left. -/
theorem enter_stays {inCode inCode' : Bool} {m : Section}
    (h : Section.enter inCode m = .ok inCode') : inCode = true → inCode' = true := by
  rintro rfl
  rw [Section.enter] at h
  split at h
  · exact (Except.ok.inj h).symm
  · exact nomatch h

/-- What a line with a legal emission adds is a chain of one item. -/
theorem chained_ofEmission {e : Emission} (h : e.Legal) (number : Int) (text : Bytes) (a : Int) :
    Chained a [.ofEmission number text a e] (a + e.size) := by
  obtain ⟨bytes, hbytes, hlen⟩ := Item.bytes_ofEmission h number text a
  rw [← hlen]
  refine .cons ?_ hbytes (.nil _)
  cases e <;> rfl

/-- A line adds at most one item, to the section that it stands in. -/
theorem emits_of_moves {body : Body} (h : Moves labels line s body s') :
    ∃ ds cs, Emits [line] s s' ds cs := by
  cases h with
  | nothing => exact ⟨[], [], .idle id⟩
  | marker henter => exact ⟨[], [], .idle (enter_stays henter)⟩
  -- data is added while the code section has not begun
  | @data text filled bytes hin hfill hread =>
      refine ⟨[.ofEmission line.number line.text s.dataNext (.data bytes)], [], ?_⟩
      have hlegal : (Emission.data bytes).Legal := trivial
      exact
        { items := rfl
          data := chained_ofEmission hlegal line.number line.text s.dataNext
          code := .nil _
          isData := by
            intro i hi
            rw [List.mem_singleton.mp hi]
            exact ⟨rfl, rfl⟩
          isCode := fun _ hi => absurd hi List.not_mem_nil
          stays := fun h => absurd h (hin ▸ Bool.false_ne_true)
          waits := fun _ => rfl
          origins := List.Sublist.refl _ }
  -- an instruction is added once it has begun
  | @code text filled i hin hfill hread hlegal =>
      refine ⟨[], [.ofEmission line.number line.text s.codeNext (.code i)], ?_⟩
      have hlegal : (Emission.code i).Legal := hlegal
      exact
        { items := rfl
          data := .nil _
          code := chained_ofEmission hlegal line.number line.text s.codeNext
          isData := fun _ hi => absurd hi List.not_mem_nil
          isCode := by
            intro i hi
            rw [List.mem_singleton.mp hi]
            exact ⟨rfl, rfl⟩
          stays := fun _ => ⟨rfl, hin⟩
          waits := fun h => absurd (hin.symm.trans h) Bool.true_eq_false.mp
          origins := List.Sublist.refl _ }

/-- Two stretches in a row: the code of the first and the data of the second cannot both be
    there, so together they still add data first. -/
theorem Emits.trans {ds cs ds' cs' : List Item} (h : Emits lines s t ds cs)
    (h' : Emits lines' t s' ds' cs') : Emits (lines ++ lines') s s' (ds ++ ds') (cs ++ cs') := by
  -- one of the two is empty: behind the code marker there is no data any more
  have hswap : cs ++ ds' = ds' ++ cs := by
    cases hin : t.inCode with
    | false => rw [h.waits hin, List.nil_append, List.append_nil]
    | true => rw [(h'.stays hin).1, List.nil_append, List.append_nil]
  have hall : (ds ++ ds') ++ (cs ++ cs') = (ds ++ cs) ++ (ds' ++ cs') := by
    rw [List.append_assoc, List.append_assoc, ← List.append_assoc ds', ← hswap, List.append_assoc]
  refine ⟨?_, h.data.append h'.data, h.code.append h'.code, ?_, ?_, ?_, ?_, ?_⟩
  · rw [h'.items, h.items, ← List.append_assoc, ← List.reverse_append, hall]
  · intro i hi
    exact (List.mem_append.mp hi).elim (h.isData i) (h'.isData i)
  · intro i hi
    exact (List.mem_append.mp hi).elim (h.isCode i) (h'.isCode i)
  · intro hin
    obtain ⟨rfl, hin⟩ := h.stays hin
    exact h'.stays hin
  · intro hin
    have hbefore : t.inCode = false :=
      Bool.eq_false_iff.mpr fun ht => Bool.false_ne_true (hin.symm.trans (h'.stays ht).2)
    rw [h.waits hbefore, h'.waits hin]
    rfl
  · have horigins := h.origins.append h'.origins
    rw [← List.map_append, ← List.map_append] at horigins
    rw [hall]
    exact horigins

/-- The items of a stretch of lines have the numbers of these lines. -/
theorem Emits.exists_line {ds cs : List Item} (h : Emits lines s s' ds cs) {i : Item}
    (hi : i ∈ ds ++ cs) :
    ∃ line ∈ lines, i.number = line.number := by
  obtain ⟨line, hline, heq⟩ := List.mem_map.mp (h.origins.mem (List.mem_map_of_mem hi))
  exact ⟨line, hline, (congrArg Prod.fst heq).symm⟩

/-- **WHAT THE SECOND PASS EMITS.**  Whatever lines it accepts, it adds data items and then
    code items, each kind in a chain, from lines in their order. -/
theorem emits_of_run (h : run labels s lines = .ok s') : ∃ ds cs, Emits lines s s' ds cs := by
  induction lines generalizing s with
  | nil =>
      cases foldlM_nil_eq_ok.mp h
      exact ⟨[], [], .idle id⟩
  | cons line lines ih =>
      obtain ⟨t, hstep, hrest⟩ := foldlM_cons_eq_ok.mp h
      obtain ⟨st, -, hmoves⟩ := moves_of_step (mapError_eq_ok.mp hstep)
      obtain ⟨ds, cs, hfirst⟩ := emits_of_moves hmoves
      obtain ⟨ds', cs', hrest⟩ := ih hrest
      exact ⟨ds ++ ds', cs ++ cs', hfirst.trans hrest⟩

/-- Items come in the order of the numbers of their lines. -/
theorem Emits.ordered {number : Nat} {texts : List Bytes} {ds cs : List Item}
    (h : Emits (SourceLine.linesFrom number texts) s s' ds cs) :
    (ds ++ cs).Pairwise fun i j => i.number < j.number := by
  have hlines : ((SourceLine.linesFrom number texts).map SourceLine.origin).Pairwise
      fun x y => x.1 < y.1 := by
    have hnumbers := SourceLine.pairwise_linesFrom number texts
    exact List.pairwise_map.mpr (hnumbers.imp fun hlt => Int.ofNat_lt.mpr hlt)
  have hitems := hlines.sublist h.origins
  rw [List.pairwise_map] at hitems
  exact hitems

/-! ## From the start -/

namespace Emits

variable {c : Config} {ds cs : List Item}

/-- The items of a program are its data items and then its code items. -/
theorem items_eq (h : Emits lines (.start c) s ds cs) : s.items.reverse = ds ++ cs := by
  rw [h.items, List.reverse_append, List.reverse_reverse]
  rfl

/-- The data items of the program are those that were emitted as data. -/
theorem dataItems (h : Emits lines (.start c) s ds cs) (labels : LabelTable) :
    (Program.mk s.items.reverse labels).dataItems.toList = ds := by
  show s.items.reverse.filter (·.data.isSome) = ds
  rw [h.items_eq, List.filter_append, List.filter_eq_self.mpr fun i hi => (h.isData i hi).1,
    List.filter_eq_nil_iff.mpr, List.append_nil]
  intro i hi
  rw [(h.isCode i hi).1]
  exact Bool.false_ne_true

theorem codeItems (h : Emits lines (.start c) s ds cs) (labels : LabelTable) :
    (Program.mk s.items.reverse labels).codeItems.toList = cs := by
  show s.items.reverse.filter (·.instruction.isSome) = cs
  rw [h.items_eq, List.filter_append, List.filter_eq_self.mpr fun i hi => (h.isCode i hi).2,
    List.filter_eq_nil_iff.mpr, List.nil_append]
  intro i hi
  rw [(h.isData i hi).2]
  exact Bool.false_ne_true

end Emits

end Assembly

end TwoPass
