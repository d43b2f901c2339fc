import TwoPass.Proofs.Passes.Lockstep

/-!
# Labels — where a label is, and where the second pass puts it

A label stands for the address at which the first pass had arrived before its line
(`find?_of_run_cons`).  The second pass puts the next item of the section where it has arrived
itself (`arrival_of_runs`).  The two places differ by the drift of the passes, so a label of
the data section is always right, and a label of the code section is right exactly if no
earlier line hides a `movi`.
-/

namespace TwoPass

open Bytes

namespace LabelTable

variable {t : LabelTable} {name other : Bytes} {symbol : Symbol}

/-- A name that is defined has the symbol it is given. -/
theorem find?_insert_self : (t.insert name symbol).find? name = some symbol := by
  show Option.map _ (List.find? _ (_ :: _)) = _
  rw [List.find?_cons, decide_eq_true rfl]
  rfl

/-- Every other name keeps its own. -/
theorem find?_insert_of_ne (h : other ≠ name) :
    (t.insert other symbol).find? name = t.find? name := by
  have htests : (fun e : SymbolEntry => decide (decide (e.name ≠ other) = true ∧
      decide (e.name = name) = true)) = fun e => decide (e.name = name) := by
    funext e
    by_cases he : e.name = name
    · simp [he, h.symm]
    · simp [he]
  show Option.map _ (List.find? _ (_ :: _)) = Option.map _ (List.find? _ _)
  rw [List.find?_cons, decide_eq_false h, List.find?_filter, htests]

end LabelTable

namespace Layout

variable {l l' : Layout} {name : Bytes}

/-- What stands behind a label defines none. -/
theorem labels_of_advance {body : Body} (h : l.advance body = .ok l') : l'.labels = l.labels := by
  cases body with
  | nothing =>
      cases Except.ok.inj h
      rfl
  | marker m =>
      obtain ⟨_, -, h⟩ := bind_eq_ok.mp h
      cases pure_eq_ok.mp h
      rfl
  | text text =>
      rw [advance] at h
      split at h
      · cases Except.ok.inj h
        rfl
      · obtain ⟨_, -, h⟩ := bind_eq_ok.mp h
        cases pure_eq_ok.mp h
        rfl

/-- A line defines its own label and no other. -/
theorem labels_of_step {text : Bytes} (h : l.step text = .ok l') :
    l'.labels = (l.define (Label.split text).1).labels := by
  obtain ⟨st, hst, h⟩ := bind_eq_ok.mp h
  rw [labels_of_advance h, Statement.label_of_read hst]

/-- Lines that do not define a name leave it what it is. -/
theorem find?_of_run {lines : List SourceLine} (h : l.run lines = .ok l')
    (hlines : ∀ line ∈ lines, (Label.split line.text).1 ≠ some name) :
    l'.labels.find? name = l.labels.find? name := by
  induction lines generalizing l with
  | nil =>
      cases foldlM_nil_eq_ok.mp h
      rfl
  | cons line lines ih =>
      obtain ⟨l₁, hstep, h⟩ := foldlM_cons_eq_ok.mp h
      rw [ih h (fun line' hmem => hlines line' (List.mem_cons_of_mem _ hmem)),
        labels_of_step (mapError_eq_ok.mp hstep)]
      have hline := hlines line List.mem_cons_self
      cases hlabel : (Label.split line.text).1 with
      | none => rfl
      | some other =>
          rw [hlabel] at hline
          exact LabelTable.find?_insert_of_ne fun he => hline (congrArg some he)

/-- A name that a line defines, and no line behind it, stands for the place before the line. -/
theorem find?_of_run_cons {line : SourceLine} {lines : List SourceLine}
    (h : l.run (line :: lines) = .ok l') (hname : (Label.split line.text).1 = some name)
    (hlines : ∀ line' ∈ lines, (Label.split line'.text).1 ≠ some name) :
    l'.labels.find? name = some l.here := by
  obtain ⟨l₁, hstep, h⟩ := foldlM_cons_eq_ok.mp h
  rw [find?_of_run h hlines, labels_of_step (mapError_eq_ok.mp hstep), hname]
  exact LabelTable.find?_insert_self

end Layout

/-! ## Where the second pass puts a line -/

/-- The address of the first item in a section. -/
def Config.base (c : Config) (space : Section) : Int :=
  if space = .code then c.codeBase.toNat else c.dataBase.toNat

namespace Program

/-- The items of a section. -/
def itemsIn (p : Program) (space : Section) : List Item :=
  if space = .code then p.codeItems.toList else p.dataItems.toList

/-- The address that a line has in a section of a program: that of the first item of this or
    a later line, or behind all bytes of the section if there is none. -/
def arrival (p : Program) (c : Config) (space : Section) (number : Int) : Except Fault Int :=
  Item.arrival (c.base space) (p.itemsIn space) number

end Program

/-- Where the second pass has arrived in a section. -/
def Assembly.next (s : Assembly) (space : Section) : Int :=
  if space = .code then s.codeNext else s.dataNext

/-- The address of a line is where the second pass had arrived before it. -/
theorem arrival_of_runs {c : Config} {texts : List Bytes} {labels : LabelTable} {k : Nat}
    {s s' : Assembly}
    (h : Assembly.run labels (.start c) (SourceLine.ofTexts (texts.take k)) = .ok s)
    (h' : s.run labels (SourceLine.linesBehind k texts) = .ok s') (space : Section) :
    (Program.mk s'.items.reverse labels).arrival c space (k + 1) = .ok (s.next space) := by
  obtain ⟨ds, cs, hbefore⟩ := Assembly.emits_of_run h
  obtain ⟨ds', cs', hbehind⟩ := Assembly.emits_of_run h'
  have hall := hbefore.trans hbehind
  -- the numbers of the items tell on which side of the line they are
  have hearlier : ∀ i ∈ ds ++ cs, i.number < (k + 1 : Int) := by
    intro i hi
    obtain ⟨line, hline, hnumber⟩ := hbefore.exists_line hi
    have hle := SourceLine.number_le_of_mem_take hline
    omega
  have hlater : ∀ i ∈ ds' ++ cs', (k + 1 : Int) ≤ i.number := by
    intro i hi
    obtain ⟨line, hline, hnumber⟩ := hbehind.exists_line hi
    have hlt := SourceLine.lt_number_of_mem_behind hline
    omega
  rw [Program.arrival, Config.base, Program.itemsIn, Assembly.next, hall.dataItems, hall.codeItems]
  by_cases hspace : space = .code
  · rw [if_pos hspace, if_pos hspace, if_pos hspace]
    exact hbefore.code.arrival hbehind.code (fun i hi => hearlier i (List.mem_append_right _ hi))
      (fun i hi => hlater i (List.mem_append_right _ hi))
  · rw [if_neg hspace, if_neg hspace, if_neg hspace]
    exact hbefore.data.arrival hbehind.data (fun i hi => hearlier i (List.mem_append_left _ hi))
      (fun i hi => hlater i (List.mem_append_left _ hi))

/-- Lines are in one of the two sections. -/
theorem Layout.space_here (l : Layout) : l.here.space = .data ∨ l.here.space = .code := by
  rw [here]
  cases l.inCode with
  | false => exact .inl rfl
  | true => exact .inr rfl

/-- In the section of a label, the second pass is ahead of the label by the drift. -/
theorem Synchronised.next_here {l : Layout} {s : Assembly} (h : Synchronised l s) :
    s.next l.here.space = l.here.address + if l.here.space = .code then drift s.items else 0 := by
  rw [Layout.here]
  cases l.inCode with
  | false =>
      show s.dataNext = l.dataNext + 0
      rw [h.dataNext, Int.add_zero]
  | true => exact h.codeNext

/-- **WHERE A LABEL IS.**  A label that no later line defines again belongs to the data or to
    the code section.  The line of a data label has the address that the label stands for,
    and the line of a code label lies behind that address by the drift of the passes.  So a
    label is right exactly if it is a data label or no earlier item hides a `movi`. -/
theorem label_address (c : Config) (texts : List Bytes) (p : Program)
    (h : assemble c texts = .ok p) (k : Nat) (text name : Bytes) (htext : texts[k]? = some text)
    (hname : (Label.split text.trim).1 = some name)
    (hlast : ∀ j text', k < j → texts[j]? = some text' → (Label.split text'.trim).1 ≠ some name) :
    ∃ symbol : Symbol, p.labels.find? name = some symbol ∧
      (symbol.space = .data ∨ symbol.space = .code) ∧
      p.arrival c symbol.space (k + 1) =
        .ok (symbol.address +
          if symbol.space = .code then drift (p.items.filter fun i : Item => i.number ≤ k) else 0) ∧
      (p.arrival c symbol.space (k + 1) = .ok symbol.address ↔
        (symbol.space = .code → ∀ i ∈ p.items, i.number ≤ k → i.hidesMovi = false)) := by
  obtain ⟨l, l', s, s', hl, hl', hs, hs', rfl⟩ := runs_of_assemble h k
  have hne : text.trim ≠ [] := by
    intro hnil
    rw [hnil, Label.split_nil] at hname
    exact nomatch hname
  rw [SourceLine.linesBehind_eq_cons htext hne] at hl'
  have hlater : ∀ line ∈ SourceLine.linesBehind (k + 1) texts,
      (Label.split line.text).1 ≠ some name := by
    intro line hline
    obtain ⟨j, text', hj, htext', hline⟩ := SourceLine.exists_text_of_mem_behind hline
    rw [hline]
    exact hlast j text' hj htext'
  have hfind := Layout.find?_of_run_cons hl' hname hlater
  have hsync := (Synchronised.start c).run (fun line => SourceLine.trimmed_of_mem) hl hs
  have hdrift : drift (s'.items.reverse.filter fun i : Item => i.number ≤ k) = drift s.items := by
    rw [filter_items_of_runs hs hs', drift_reverse]
  refine ⟨l.here, hfind, l.space_here, ?_, ?_⟩
  · rw [arrival_of_runs hs hs', hsync.next_here, hdrift]
  · -- the label is right exactly if it does not drift
    have hzero : drift s.items = 0 ↔
        ∀ i ∈ s'.items.reverse, i.number ≤ k → i.hidesMovi = false := by
      simp only [← hdrift, drift_eq_zero, List.mem_filter, decide_eq_true_iff, and_imp]
    rw [arrival_of_runs hs hs', hsync.next_here, Except.ok.injEq, ← hzero]
    by_cases hspace : l.here.space = .code
    · rw [if_pos hspace]
      constructor
      · intro hsum _
        omega
      · intro hnone
        rw [hnone hspace]
        exact Int.add_zero _
    · rw [if_neg hspace]
      exact ⟨fun _ hcode => absurd hcode hspace, fun _ => Int.add_zero _⟩

/-- The label behind the hidden `movi` belongs to the code section and is two bytes short. -/
theorem label_address_hiddenSource :
    hiddenSource[3]? = some (Bytes.ofString "L: nop") ∧
    ∃ symbol : Symbol, hiddenProgram.labels.find? (Bytes.ofString "L") = some symbol ∧
      symbol.space = .code ∧
      hiddenProgram.arrival .default symbol.space 4 = .ok (symbol.address + 2) := by
  have hlast : ∀ j text', 3 < j → hiddenSource[j]? = some text' →
      (Label.split text'.trim).1 ≠ some (Bytes.ofString "L") := by
    intro j text' hj htext'
    rw [List.getElem?_eq_none (show hiddenSource.length ≤ j from hj)] at htext'
    exact nomatch htext'
  obtain ⟨symbol, hfind, -, harrival, -⟩ :=
    label_address .default hiddenSource hiddenProgram assemble_hiddenSource 3
      (Bytes.ofString "L: nop") (Bytes.ofString "L") rfl rfl hlast
  cases Option.some.inj hfind
  exact ⟨rfl, _, hfind, rfl, harrival⟩

/-- A label of the code section need not stand for the address of its line. -/
theorem label_short_of_line :
    ∃ (p : Program) (symbol : Symbol), assemble .default hiddenSource = .ok p ∧
      (Label.split (Bytes.ofString "L: nop")).1 = some (Bytes.ofString "L") ∧
      p.labels.find? (Bytes.ofString "L") = some symbol ∧
      p.arrival .default symbol.space 4 ≠ .ok symbol.address :=
  ⟨hiddenProgram, ⟨0x5802, .code⟩, assemble_hiddenSource, rfl, rfl, by decide +kernel⟩

end TwoPass
