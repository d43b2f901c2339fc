import TwoPass.Proofs.Machine.Registers
import TwoPass.Proofs.Program.Image

/-!
# Outputs — image and listing of items in any order

The items of a program need not come from a source.  They may stand in any order, and an
instruction may have an operand without a code, so that it has no word.  Both outputs go through
the data items and then through the code items, each kind in its order; how the two kinds are mixed
does not show (`all_congr`).  At the first instruction without a word they part: the image fails as
a whole and blames the item's line (`image_of_fault`), while the listing has already written the
lines in front of it (`listingOf_append`).
-/

namespace TwoPass

/-- The columns of a line of a listing. -/
structure Row where
  address : Bytes
  hex : Bytes
  source : Bytes
  deriving DecidableEq

/-- The line with given columns: two blanks between them, and the bytes filled up to eight. -/
def Row.text (r : Row) : Bytes :=
  r.address ++ Bytes.ofString "  " ++
    (r.hex ++ List.replicate (8 - r.hex.length) ' '.toUInt8) ++ Bytes.ofString "  " ++
    r.source ++ ['\n'.toUInt8]

namespace Item

variable {i : Item} {items : List Item}

/-- The columns of an item's line. -/
def row (i : Item) (bytes : Bytes) : Row :=
  ⟨Bytes.hexPadded 4 i.address, bytes.toHex, i.line⟩

/-- An item whose instruction, if it has one, has a word. -/
def Encodes (i : Item) : Prop := ∀ instruction ∈ i.instruction, ∃ w, instruction.encode = .ok w

instance (i : Item) : Decidable i.Encodes :=
  decidable_of_iff (i.instruction.all (·.encode.isOk) = true) <| by
    have hok : ∀ x : Except Fault Word, x.isOk = true ↔ ∃ w, x = .ok w := by
      intro x
      cases x <;> simp [Except.isOk, Except.toBool]
    rw [Option.all_eq_true_iff_get]
    cases h : i.instruction <;> simp [Encodes, h, hok]

/-- The line of an item that has bytes. -/
def ListedAs (i : Item) (line : Bytes) : Prop :=
  ∃ bytes, i.bytes = .ok bytes ∧ line = (i.row bytes).text

theorem bytes_of_data {data : Bytes} (h : i.data = some data) : i.bytes = .ok data := by
  rw [bytes, h]

/-- Without data, an item has the bytes of its instruction. -/
theorem bytes_of_code {instruction : Instruction} (hone : i.data.isSome = i.instruction.isNone)
    (h : i.instruction = some instruction) : i.bytes = instruction.encode.map Word.bytes := by
  have hdata : i.data = none := by
    rw [h] at hone
    exact Option.not_isSome_iff_eq_none.mp (Bool.eq_false_iff.mp hone)
  rw [bytes, hdata, h]

/-- An item with an instruction has bytes if the instruction has a word. -/
theorem exists_bytes_iff (hone : i.data.isSome = i.instruction.isNone)
    (hcode : i.instruction.isSome = true) : (∃ bytes, i.bytes = .ok bytes) ↔ i.Encodes := by
  obtain ⟨instruction, h⟩ := Option.isSome_iff_exists.mp hcode
  rw [bytes_of_code hone h, Encodes, h]
  constructor
  · rintro ⟨bytes, hbytes⟩ _ ⟨⟩
    obtain ⟨w, hw, -⟩ := map_eq_ok.mp hbytes
    exact ⟨w, hw⟩
  · intro hencodes
    obtain ⟨w, hw⟩ := hencodes instruction rfl
    exact ⟨w.bytes, map_eq_ok.mpr ⟨w, hw, rfl⟩⟩

/-- The data items have the data in their order. -/
theorem joined_data (items : List Item) :
    joined (items.filter (·.data.isSome)) = .ok (items.filterMap Item.data).flatten := by
  induction items with
  | nil => rfl
  | cons i items ih =>
      cases hdata : i.data with
      | none =>
          rw [List.filter_cons_of_neg (by simp [hdata]), List.filterMap_cons_none hdata]
          exact ih
      | some data =>
          rw [List.filter_cons_of_pos (by simp [hdata]), List.filterMap_cons_some hdata,
            joined_cons_eq_ok]
          exact ⟨data, _, bytes_of_data hdata, ih, rfl⟩

/-- The code items have the words of the instructions in their order. -/
theorem joined_code (hone : ∀ i ∈ items, i.data.isSome = i.instruction.isNone) {words : List Word}
    (h : List.Forall₂ (fun instruction w => instruction.encode = .ok w)
      (items.filterMap Item.instruction) words) :
    joined (items.filter (·.instruction.isSome)) = .ok (words.flatMap Word.bytes) := by
  induction items generalizing words with
  | nil =>
      cases h
      rfl
  | cons i items ih =>
      have hrest : ∀ j ∈ items, j.data.isSome = j.instruction.isNone :=
        fun j hj => hone j (List.mem_cons_of_mem _ hj)
      cases hcode : i.instruction with
      -- an item without an instruction is in neither list
      | none =>
          rw [List.filterMap_cons_none hcode] at h
          rw [List.filter_cons_of_neg (by simp [hcode])]
          exact ih hrest h
      | some instruction =>
          rw [List.filterMap_cons_some hcode] at h
          cases h with
          | @cons _ w _ words hw h =>
              rw [List.filter_cons_of_pos (by simp [hcode]), joined_cons_eq_ok]
              refine ⟨w.bytes, _, ?_, ih hrest h, rfl⟩
              rw [bytes_of_code (hone i List.mem_cons_self) hcode, hw]
              rfl

end Item

namespace Program

variable {p q : Program}

/-! ## The listing -/

/-- The line that is written has the columns of the item. -/
theorem listingLine_eq (i : Item) (bytes : Bytes) : listingLine i bytes = (i.row bytes).text := rfl

/-- The listing has a line for each item in front, and goes on behind them. -/
theorem listingOf_append {items : List Item} {lines : List Bytes}
    (h : List.Forall₂ Item.ListedAs items lines) (rest : List Item) :
    listingOf (items ++ rest) = (lines ++ (listingOf rest).1, (listingOf rest).2) := by
  induction h with
  | nil => rfl
  | @cons i line items lines hline _ ih =>
      obtain ⟨bytes, hbytes, rfl⟩ := hline
      rw [List.cons_append, listingOf, hbytes]
      simp only [ih, listingLine_eq]
      rfl

/-- A sink without a limit gets all lines. -/
theorem writeListing_none {lines : List Bytes} {fault : Option Fault}
    (h : listingOf p.all.toList = (lines, fault)) :
    p.writeListing none = (lines.flatten, fault.map .fault) := by
  rw [writeListing, h]
  rfl

/-- A sink that takes a number of calls gets as many lines, and it is full if there are more. -/
theorem writeListing_some {lines : List Bytes} {fault : Option Fault}
    (h : listingOf p.all.toList = (lines, fault)) (n : Nat) :
    p.writeListing (some n) =
      ((lines.take n).flatten, if n < lines.length then some .sinkFull else fault.map .fault) := by
  rw [writeListing, h]
  dsimp only [writeTo]
  by_cases hfull : n < lines.length
  · rw [if_pos hfull, decide_eq_false (Nat.not_le_of_lt hfull)]
  · rw [if_neg hfull, decide_eq_true (Nat.le_of_not_lt hfull)]

/-- A listing fails only where there is no image, either. -/
theorem listing_of_image {image : Bytes} (h : p.image = .ok image) :
    (p.writeListing none).2 = none := by
  obtain ⟨rest, himage, -⟩ := bind_eq_ok.mp h
  obtain ⟨front, hfront, hbehind⟩ := bind_eq_ok.mp himage
  obtain ⟨back, hback, -⟩ := bind_eq_ok.mp hbehind
  have hshown : ∀ i ∈ p.all.toList, ∃ line, i.ListedAs line := by
    intro i hi
    -- every item is in front of the code marker or behind it
    rw [← List.takeWhile_append_dropWhile (p := fun i => i.instruction.isNone) (l := p.all.toList)]
      at hi
    have hbytes : ∃ bytes, i.bytes = .ok bytes := by
      rcases List.mem_append.mp hi with hi | hi
      · obtain ⟨bytes, -, hok⟩ := exists_of_mem_forall₂ (mapM_eq_ok.mp hfront) hi
        exact ⟨bytes, mapError_eq_ok.mp hok⟩
      · obtain ⟨bytes, -, hok⟩ := exists_of_mem_forall₂ (mapM_eq_ok.mp hback) hi
        exact ⟨bytes, mapError_eq_ok.mp hok⟩
    obtain ⟨bytes, hbytes⟩ := hbytes
    exact ⟨_, bytes, hbytes, rfl⟩
  obtain ⟨lines, hlines⟩ := exists_forall₂ hshown
  have hlisting : listingOf p.all.toList = (lines, none) := by
    rw [← List.append_nil p.all.toList, listingOf_append hlines]
    simp only [listingOf, List.append_nil]
  rw [writeListing_none hlisting]
  rfl

/-! ## Items in any order -/

/-- What is shown depends on the items of each kind and their order alone. -/
theorem all_congr (hdata : q.dataItems.toList = p.dataItems.toList)
    (hcode : q.codeItems.toList = p.codeItems.toList) : q.all.toList = p.all.toList := by
  rw [all_eq, all_eq, hdata, hcode]

/-- There are no code items exactly if there are no instructions. -/
theorem codeItems_eq_nil_iff :
    p.codeItems.toList = [] ↔ p.items.filterMap Item.instruction = [] := by
  show p.items.filter _ = [] ↔ _
  simp [List.filter_eq_nil_iff]

/-- Where some instruction has no word, there is a first code item whose instruction has none. -/
theorem exists_first_fault (hone : ∀ i ∈ p.items, i.data.isSome = i.instruction.isNone)
    (h : ∃ i ∈ p.items, ¬ i.Encodes) :
    ∃ before behind first cause, p.codeItems.toList = before ++ first :: behind ∧
      (∀ i ∈ before, i.Encodes ∧ ∃ bytes, i.bytes = .ok bytes) ∧ first.bytes = .error cause ∧
      ∃ instruction ∈ first.instruction, instruction.encode = .error cause := by
  have hcode : ∀ i ∈ p.codeItems.toList,
      i.data.isSome = i.instruction.isNone ∧ i.instruction.isSome = true := by
    intro i hi
    obtain ⟨hmem, hsome⟩ := List.mem_filter.mp hi
    exact ⟨hone i hmem, hsome⟩
  cases hbytes : p.codeItems.toList.mapM Item.bytes with
  -- all code items have bytes: then so has the one that should not
  | ok parts =>
      obtain ⟨i, hi, hnot⟩ := h
      have hsome : i.instruction.isSome = true := by
        rw [Option.isSome_iff_ne_none]
        intro hnone
        refine hnot fun instruction hmem => ?_
        rw [hnone] at hmem
        cases hmem
      obtain ⟨bytes, -, hok⟩ :=
        exists_of_mem_forall₂ (mapM_eq_ok.mp hbytes) (List.mem_filter.mpr ⟨hi, hsome⟩)
      exact absurd ((Item.exists_bytes_iff (hone i hi) hsome).mp ⟨bytes, hok⟩) hnot
  -- the list stops at its first fault, which is that of an instruction
  | error cause =>
      obtain ⟨before, first, behind, hsplit, hbefore, hfirst⟩ := mapM_eq_error.mp hbytes
      rw [hsplit] at hcode
      refine ⟨before, behind, first, cause, hsplit, ?_, hfirst, ?_⟩
      · intro i hi
        obtain ⟨hsingle, hsome⟩ := hcode i (List.mem_append_left _ hi)
        exact ⟨(Item.exists_bytes_iff hsingle hsome).mp (hbefore i hi), hbefore i hi⟩
      · obtain ⟨hsingle, hsome⟩ := hcode first (List.mem_append_right _ List.mem_cons_self)
        obtain ⟨instruction, hinstruction⟩ := Option.isSome_iff_exists.mp hsome
        rw [Item.bytes_of_code hsingle hinstruction] at hfirst
        exact ⟨instruction, hinstruction, map_eq_error.mp hfirst⟩

/-- An image fails with the fault of the first instruction without a word, at its line. -/
theorem image_of_fault {before behind : List Item} {first : Item} {D : Bytes} {cause : Fault}
    (hone : ∀ i ∈ p.items, i.data.isSome = i.instruction.isNone)
    (hD : Item.joined p.dataItems.toList = .ok D)
    (hsplit : p.codeItems.toList = before ++ first :: behind)
    (hbefore : ∀ i ∈ before, ∃ bytes, i.bytes = .ok bytes) (hfirst : first.bytes = .error cause) :
    p.image = .error (.atLine first.number first.line cause) := by
  obtain ⟨parts, hparts, -⟩ := mapM_locatedBytes hD
  have hcode : p.codeItems.toList.mapM locatedBytes =
      .error (.atLine first.number first.line cause) := by
    refine mapM_eq_error.mpr ⟨before, first, behind, hsplit, ?_, ?_⟩
    · intro i hi
      obtain ⟨bytes, hbytes⟩ := hbefore i hi
      exact ⟨bytes, mapError_eq_ok.mpr hbytes⟩
    · exact mapError_eq_error.mpr ⟨cause, hfirst, rfl⟩
  rw [image_eq hone, hparts, hcode]
  rfl

/-- **OUTPUTS BY KIND.**  Take a program whose items have either data or an instruction, in any
    order.

    If every instruction has a word, the image is the data marker and the data of all items,
    with the code marker and the words of all instructions behind if there is an instruction.
    Other programs with the same items of each kind, in the same order, have the same image and
    the same listing, however they mix the two kinds.

    If an instruction has no word, the image is a fault at the line of the first such item.
    Nothing is written for the image, not even to a sink that takes no call.  What is written for
    the listing is a line for each data item and for each code item in front of that one, and it
    ends with the fault itself; a sink that takes fewer calls than there are such lines gets the
    first of them. -/
theorem outputs_by_kind (p : Program)
    (hone : ∀ i ∈ p.items, i.data.isSome = i.instruction.isNone) :
    ((∀ i ∈ p.items, i.Encodes) → ∃ words : List Word,
      List.Forall₂ (fun instruction w => instruction.encode = .ok w)
        (p.items.filterMap Item.instruction) words ∧
      p.image = .ok (dataMarker ++ (p.items.filterMap Item.data).flatten ++
        if p.items.filterMap Item.instruction = [] then []
        else codeMarker ++ words.flatMap Word.bytes)) ∧
    (∀ q : Program, q.dataItems.toList = p.dataItems.toList →
      q.codeItems.toList = p.codeItems.toList →
      q.image = p.image ∧ ∀ limit, q.writeImage limit = p.writeImage limit ∧
        q.writeListing limit = p.writeListing limit) ∧
    ((∃ i ∈ p.items, ¬ i.Encodes) →
      ∃ (before behind : List Item) (first : Item) (cause : Fault) (lines : List Bytes),
        p.codeItems.toList = before ++ first :: behind ∧ (∀ i ∈ before, i.Encodes) ∧
        (∃ instruction ∈ first.instruction, instruction.encode = .error cause) ∧
        p.image = .error (.atLine first.number first.line cause) ∧
        (∀ limit, p.writeImage limit =
          ([], some (.fault (.atLine first.number first.line cause)))) ∧
        List.Forall₂ Item.ListedAs (p.dataItems.toList ++ before) lines ∧
        p.writeListing none = (lines.flatten, some (.fault cause)) ∧
        ∀ n, p.writeListing (some n) = ((lines.take n).flatten,
          if n < lines.length then some .sinkFull else some (.fault cause))) := by
  have hD : Item.joined p.dataItems.toList = .ok (p.items.filterMap Item.data).flatten :=
    Item.joined_data p.items
  refine ⟨?_, ?_, ?_⟩
  · -- data cannot fail, and the words are given by the hypothesis
    intro hencodes
    have hwords : ∀ instruction ∈ p.items.filterMap Item.instruction,
        ∃ w, instruction.encode = .ok w := by
      intro instruction hmem
      obtain ⟨i, hi, hinstruction⟩ := List.mem_filterMap.mp hmem
      exact hencodes i hi instruction hinstruction
    obtain ⟨words, hwords⟩ := exists_forall₂ hwords
    refine ⟨words, hwords, ?_⟩
    rw [image_of_joined hone hD (Item.joined_code hone hwords)]
    by_cases hnone : p.items.filterMap Item.instruction = []
    · rw [if_pos (codeItems_eq_nil_iff.mpr hnone), if_pos hnone, List.append_nil]
    · rw [if_neg (mt codeItems_eq_nil_iff.mp hnone), if_neg hnone, List.append_assoc _ codeMarker]
  · -- both outputs go through the items by kind, and so see no other order
    intro q hdata hcode
    have hall := all_congr hdata hcode
    have himage : q.image = p.image := by rw [image, image, hall]
    refine ⟨himage, fun limit => ⟨?_, ?_⟩⟩
    · rw [writeImage, writeImage, himage]
    · rw [writeListing, writeListing, hall]
  · -- the listing has gone through all data items before it comes to an instruction
    intro hnot
    obtain ⟨before, behind, first, cause, hsplit, hbefore, hfirst, hcause⟩ :=
      exists_first_fault hone hnot
    have himage := image_of_fault hone hD hsplit (fun i hi => (hbefore i hi).2) hfirst
    have hshown : ∀ i ∈ p.dataItems.toList ++ before, ∃ line, i.ListedAs line := by
      intro i hi
      rcases List.mem_append.mp hi with hi | hi
      · obtain ⟨data, hdata⟩ := Option.isSome_iff_exists.mp (List.mem_filter.mp hi).2
        exact ⟨_, data, Item.bytes_of_data hdata, rfl⟩
      · obtain ⟨-, bytes, hbytes⟩ := hbefore i hi
        exact ⟨_, bytes, hbytes, rfl⟩
    obtain ⟨lines, hlines⟩ := exists_forall₂ hshown
    have hlisting : listingOf p.all.toList = (lines, some cause) := by
      rw [all_eq, hsplit, ← List.append_assoc, listingOf_append hlines, listingOf, hfirst]
      simp only [List.append_nil]
    refine ⟨before, behind, first, cause, lines, hsplit, fun i hi => (hbefore i hi).1, hcause,
      himage, ?_, hlines, writeListing_none hlisting, writeListing_some hlisting⟩
    intro limit
    rw [writeImage, himage]

/-- An instruction in front of data. -/
def mixedProgram : Program where
  items :=
    [⟨1, Bytes.ofString "nop", 0x5800, none, some (.derive ⟨0⟩ .none .none)⟩,
      ⟨2, Bytes.ofString ".array 1 2", 0x9000, some [1, 2], none⟩]
  labels := ⟨[]⟩

/-- The same with more data behind, and in between an instruction that has no word. -/
def tangledProgram : Program where
  items := mixedProgram.items ++
    [⟨3, Bytes.ofString "jump pc", 0x5802, none, some (.derive ⟨36⟩ (.ofRegister .pc) .none)⟩,
      ⟨4, Bytes.ofString ".byte 3", 0x9002, some [3], none⟩]
  labels := ⟨[]⟩

/-- The first of the two has an image with the data in front, the second has none, and its listing
    has the lines of both data items and of the first instruction. -/
theorem outputs_by_kind_mixed_tangled :
    mixedProgram.image = .ok (dataMarker ++ [1, 2] ++ (codeMarker ++ [0, 0])) ∧
    (∃ i ∈ tangledProgram.items, ¬ i.Encodes) ∧
    (∀ limit, tangledProgram.writeImage limit =
      ([], some (.fault (.atLine 3 (Bytes.ofString "jump pc") (.registerUse .pc .noEncoding))))) ∧
    ∃ lines : List Bytes, lines.length = 3 ∧
      lines.flatten = Bytes.ofString "9000  0102      .array 1 2\n9002  03        .byte 3\n" ++
        Bytes.ofString "5800  0000      nop\n" ∧
      tangledProgram.writeListing none =
        (lines.flatten, some (.fault (.registerUse .pc .noEncoding))) ∧
      tangledProgram.writeListing (some 2) = ((lines.take 2).flatten, some .sinkFull) := by
  obtain ⟨hmixed, -, -⟩ := outputs_by_kind mixedProgram (by decide)
  obtain ⟨-, -, htangled⟩ := outputs_by_kind tangledProgram (by decide)
  have hnot : ∃ i ∈ tangledProgram.items, ¬ i.Encodes := by decide
  refine ⟨?_, hnot, ?_⟩
  · obtain ⟨words, hwords, himage⟩ := hmixed (by decide)
    cases hwords with
    | @cons _ w _ _ hw hrest =>
        cases hrest
        cases Except.ok.inj (show Except.ok (⟨0, false⟩ : Word) = .ok w from hw)
        exact himage
  · obtain ⟨before, behind, first, cause, lines, hsplit, -, -, himage, hwrite, hlines,
      hall, hsome⟩ := htangled hnot
    have hcomputed : tangledProgram.image =
        .error (.atLine 3 (Bytes.ofString "jump pc") (.registerUse .pc .noEncoding)) := rfl
    obtain ⟨hnumber, hline, rfl⟩ :=
      Fault.atLine.inj (Except.error.inj (hcomputed.symm.trans himage))
    rw [← hnumber, ← hline] at hwrite
    -- the other instruction has another number, so it is the one item in front
    have hnumbers : tangledProgram.codeItems.toList.map Item.number = [1, 3] := rfl
    rw [hsplit, List.map_append, List.map_cons, ← hnumber] at hnumbers
    have hbefore : before.length = 1 := by
      cases before with
      | nil => simp at hnumbers
      | cons i before =>
          cases before with
          | nil => rfl
          | cons j before => simp at hnumbers
    have hlength : lines.length = 3 := by
      rw [← hlines.length_eq, List.length_append, hbefore]
      rfl
    refine ⟨hwrite, lines, hlength, ?_, hall, ?_⟩
    · rw [show lines.flatten = (tangledProgram.writeListing none).1 from
        (congrArg Prod.fst hall).symm]
      decide +kernel
    · rw [hsome, hlength]
      rfl

end Program

end TwoPass
