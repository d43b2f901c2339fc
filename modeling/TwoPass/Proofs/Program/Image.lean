import TwoPass.Proofs.Passes.Lockstep

/-!
# The image — where the bytes of an item are

The image of a program is put together from its items by their kind, without looking at
addresses.  For a program in which every item is either data or an instruction, it consists
of the data marker and the data, and, if there is an instruction, the code marker and the
code (`image_of_joined`).  An assembled program is of this kind, and its sections are
chains from the base addresses; so the bytes of an item are in the image as far behind the
marker of their section as the item's address is behind its base.
-/

namespace TwoPass

/-- A text stands in another one at an offset. -/
def Bytes.StandsAt (part : Bytes) (offset : Int) (whole : Bytes) : Prop :=
  ∃ before behind, whole = before ++ part ++ behind ∧ before.length = offset

/-- What stands in a text stands in every longer one, further in by what is put in front. -/
theorem Bytes.StandsAt.within {part whole : Bytes} {offset : Int} (h : part.StandsAt offset whole)
    (front behind : Bytes) : part.StandsAt (front.length + offset) (front ++ whole ++ behind) := by
  obtain ⟨before, rest, rfl, hlen⟩ := h
  refine ⟨front ++ before, rest ++ behind, ?_, ?_⟩
  · simp only [List.append_assoc]
  · rw [← hlen, List.length_append]
    omega

/-- The bytes of an item of a chain stand among those of the chain. -/
theorem Chained.standsAt {a e : Int} {items : List Item} {item : Item} {all : Bytes}
    (h : Chained a items e) (hall : Item.joined items = .ok all) (hitem : item ∈ items) :
    ∃ bytes, item.bytes = .ok bytes ∧ bytes.StandsAt (item.address - a) all := by
  obtain ⟨before, bytes, behind, hbytes, hcut, hat⟩ := h.exists_at hall hitem
  exact ⟨bytes, hbytes, before, behind, hcut, by omega⟩

namespace Program

variable {p : Program} {ds cs : List Item} {D C : Bytes}

/-- All items are the data items and then the code items. -/
theorem all_eq (p : Program) : p.all.toList = p.dataItems.toList ++ p.codeItems.toList := by
  show _ ++ (_ ++ []) = _
  rw [List.append_nil]

/-- Locating faults does not change what items give. -/
theorem mapM_locatedBytes {items : List Item} {all : Bytes} (h : Item.joined items = .ok all) :
    ∃ parts, items.mapM locatedBytes = .ok parts ∧ parts.flatten = all := by
  obtain ⟨parts, hparts, hall⟩ := map_eq_ok.mp h
  refine ⟨parts, mapM_eq_ok.mpr ?_, hall⟩
  exact (mapM_eq_ok.mp hparts).imp fun item bytes hbytes => mapError_eq_ok.mpr hbytes

/-- Items without and then items with an instruction are cut apart where the marker stands. -/
theorem imageOf_append (hds : ∀ i ∈ ds, i.instruction.isNone = true)
    (hcs : ∀ i ∈ cs, i.instruction.isNone = false) :
    imageOf (ds ++ cs) = do
      let before ← ds.mapM locatedBytes
      let behind ← cs.mapM locatedBytes
      return before.flatten ++ (if cs = [] then [] else codeMarker) ++ behind.flatten := by
  have hcut : cs.takeWhile (·.instruction.isNone) = [] ∧
      cs.dropWhile (·.instruction.isNone) = cs := by
    cases cs with
    | nil => exact ⟨rfl, rfl⟩
    | cons i cs =>
        have hi := hcs i List.mem_cons_self
        exact ⟨List.takeWhile_cons_of_neg (Bool.eq_false_iff.mp hi),
          List.dropWhile_cons_of_neg (Bool.eq_false_iff.mp hi)⟩
  rw [imageOf, List.takeWhile_append_of_pos hds, List.dropWhile_append_of_pos hds, hcut.1, hcut.2,
    List.append_nil]

/-- The image of a program in which every item is either data or an instruction. -/
theorem image_eq (hone : ∀ i ∈ p.items, i.data.isSome = i.instruction.isNone) :
    p.image = do
      let before ← p.dataItems.toList.mapM locatedBytes
      let behind ← p.codeItems.toList.mapM locatedBytes
      return dataMarker ++ (before.flatten ++
        (if p.codeItems.toList = [] then [] else codeMarker) ++ behind.flatten) := by
  have hds : ∀ i ∈ p.dataItems.toList, i.instruction.isNone = true := by
    intro i hi
    obtain ⟨hmem, hdata⟩ := List.mem_filter.mp hi
    exact (hone i hmem).symm.trans hdata
  have hcs : ∀ i ∈ p.codeItems.toList, i.instruction.isNone = false := by
    intro i hi
    obtain ⟨-, hcode⟩ := List.mem_filter.mp hi
    rw [← Option.not_isSome, hcode]
    rfl
  rw [image, all_eq, imageOf_append hds hcs]
  simp only [bind_assoc, pure_bind]

/-- If all of its items have bytes, these are what is in the image. -/
theorem image_of_bytes (hone : ∀ i ∈ p.items, i.data.isSome = i.instruction.isNone)
    (hD : Item.joined p.dataItems.toList = .ok D) (hC : Item.joined p.codeItems.toList = .ok C) :
    p.image = .ok (dataMarker ++ D ++
      (if p.codeItems.toList = [] then [] else codeMarker) ++ C) := by
  obtain ⟨dparts, hdparts, rfl⟩ := mapM_locatedBytes hD
  obtain ⟨cparts, hcparts, rfl⟩ := mapM_locatedBytes hC
  rw [image_eq hone, hdparts, hcparts, List.append_assoc, List.append_assoc]
  show Except.ok (_ ++ (_ ++ _ ++ _)) = _
  rw [List.append_assoc]

/-- The image with its code section left out where it is empty. -/
theorem image_of_joined (hone : ∀ i ∈ p.items, i.data.isSome = i.instruction.isNone)
    (hD : Item.joined p.dataItems.toList = .ok D) (hC : Item.joined p.codeItems.toList = .ok C) :
    p.image =
      .ok (if p.codeItems.toList = [] then dataMarker ++ D
        else dataMarker ++ D ++ codeMarker ++ C) := by
  rw [image_of_bytes hone hD hC]
  by_cases hnone : p.codeItems.toList = []
  · rw [hnone] at hC
    have hcode : [] = C := Except.ok.inj (Item.joined_nil.symm.trans hC)
    rw [if_pos hnone, if_pos hnone, ← hcode, List.append_nil, List.append_nil]
  · rw [if_neg hnone, if_neg hnone]

end Program

/-- A program laid out as the second pass does it: data first, items in the order of their
    lines, and each section a chain from its base with the given bytes. -/
structure Program.Placed (p : Program) (c : Config) (D C : Bytes) : Prop where
  items : p.items = p.dataItems.toList ++ p.codeItems.toList
  ordered : p.items.Pairwise fun i j => i.number < j.number
  one : ∀ i ∈ p.items, i.data.isSome = i.instruction.isNone
  data : Chained c.dataBase.toNat p.dataItems.toList (c.dataBase.toNat + D.length)
  dataBytes : Item.joined p.dataItems.toList = .ok D
  code : Chained c.codeBase.toNat p.codeItems.toList (c.codeBase.toNat + C.length)
  codeBytes : Item.joined p.codeItems.toList = .ok C

/-- Every assembled program is laid out so. -/
theorem placed_of_assemble {c : Config} {texts : List Bytes} {p : Program}
    (h : assemble c texts = .ok p) : ∃ D C, p.Placed c D C := by
  obtain ⟨l, s, -, hassembly, rfl⟩ := assemble_eq_ok.mp h
  obtain ⟨ds, cs, hemits⟩ := Assembly.emits_of_run hassembly
  obtain ⟨D, hD, hdataEnd⟩ := hemits.data.joined
  obtain ⟨C, hC, hcodeEnd⟩ := hemits.code.joined
  have hdata := hemits.data
  have hcode := hemits.code
  rw [hdataEnd] at hdata
  rw [hcodeEnd] at hcode
  -- the parts of the layout are those of what the second pass emits
  refine ⟨D, C, ?_⟩
  constructor
  · rw [hemits.dataItems, hemits.codeItems]
    exact hemits.items_eq
  · show s.items.reverse.Pairwise _
    rw [hemits.items_eq]
    exact hemits.ordered
  · intro i hi
    rcases List.mem_append.mp (hemits.items_eq ▸ hi) with hi | hi
    · rw [(hemits.isData i hi).1, (hemits.isData i hi).2]
      rfl
    · rw [(hemits.isCode i hi).1, ← Option.not_isSome, (hemits.isCode i hi).2]
      rfl
  · rw [hemits.dataItems]
    exact hdata
  · rw [hemits.dataItems]
    exact hD
  · rw [hemits.codeItems]
    exact hcode
  · rw [hemits.codeItems]
    exact hC

/-- Items that are changed in nothing but their places have the same bytes. -/
theorem Item.joined_map {f : Item → Item} (hf : ∀ i, (f i).bytes = i.bytes) {items : List Item}
    {all : Bytes} (h : joined items = .ok all) : joined (items.map f) = .ok all := by
  obtain ⟨parts, hparts, hall⟩ := map_eq_ok.mp h
  refine map_eq_ok.mpr ⟨parts, mapM_eq_ok.mpr ?_, hall⟩
  exact List.forall₂_map_left_iff.mpr ((mapM_eq_ok.mp hparts).imp fun i _ hi => (hf i).trans hi)

/-- Numbers, lines and addresses are no part of an image. -/
theorem Program.image_map {f : Item → Item} (hdata : ∀ i, (f i).data = i.data)
    (hcode : ∀ i, (f i).instruction = i.instruction) {c : Config} {D C : Bytes} {p q : Program}
    (h : p.Placed c D C) (hitems : q.items = p.items.map f) : q.image = p.image := by
  have hbytes : ∀ i, (f i).bytes = i.bytes := by
    intro i
    rw [Item.bytes, Item.bytes, hdata, hcode]
  -- an item stays of its kind, so the items of each kind are changed one by one
  have hdataItems : q.dataItems.toList = p.dataItems.toList.map f := by
    show q.items.filter _ = (p.items.filter _).map f
    rw [hitems, List.filter_map]
    exact congrArg (List.map f) (List.filter_congr fun i _ => congrArg Option.isSome (hdata i))
  have hcodeItems : q.codeItems.toList = p.codeItems.toList.map f := by
    show q.items.filter _ = (p.items.filter _).map f
    rw [hitems, List.filter_map]
    exact congrArg (List.map f) (List.filter_congr fun i _ => congrArg Option.isSome (hcode i))
  have hone : ∀ i ∈ q.items, i.data.isSome = i.instruction.isNone := by
    intro i hi
    rw [hitems] at hi
    obtain ⟨old, hold, rfl⟩ := List.mem_map.mp hi
    rw [hdata, hcode]
    exact h.one old hold
  have hq := image_of_joined hone (hdataItems ▸ Item.joined_map hbytes h.dataBytes)
    (hcodeItems ▸ Item.joined_map hbytes h.codeBytes)
  rw [hq, image_of_joined h.one h.dataBytes h.codeBytes, hcodeItems]
  simp only [List.map_eq_nil_iff]

/-- **THE LAYOUT OF AN IMAGE.**  An assembled program shows its items in the order of their
    lines, has an image, and the image is the data marker and the data bytes, with the code
    marker and the instruction words behind if there is an instruction.  In each section,
    items stand one behind the other from the base address on, and their bytes are in the
    image as far behind the marker as their address is behind the base. -/
theorem image_layout (c : Config) (texts : List Bytes) (p : Program)
    (h : assemble c texts = .ok p) :
    p.all.toList = p.items ∧ p.items.Pairwise (fun i j => i.number < j.number) ∧
    ∃ D C image : Bytes,
      Item.joined p.dataItems.toList = .ok D ∧ Item.joined p.codeItems.toList = .ok C ∧
      p.image = .ok image ∧
      image = (if p.codeItems.toList = [] then Program.dataMarker ++ D
        else Program.dataMarker ++ D ++ Program.codeMarker ++ C) ∧
      Chained c.dataBase.toNat p.dataItems.toList (c.dataBase.toNat + D.length) ∧
      Chained c.codeBase.toNat p.codeItems.toList (c.codeBase.toNat + C.length) ∧
      (∀ i ∈ p.dataItems.toList, ∃ bytes, i.bytes = .ok bytes ∧
        bytes.StandsAt (6 + (i.address - c.dataBase.toNat)) image) ∧
      (∀ i ∈ p.codeItems.toList, ∃ bytes, i.bytes = .ok bytes ∧
        bytes.StandsAt (12 + D.length + (i.address - c.codeBase.toNat)) image) := by
  obtain ⟨D, C, hp⟩ := placed_of_assemble h
  have himage := Program.image_of_joined hp.one hp.dataBytes hp.codeBytes
  refine ⟨?_, hp.ordered, D, C, _, hp.dataBytes, hp.codeBytes, himage, rfl, hp.data, hp.code,
    ?_, ?_⟩
  · rw [Program.all_eq, ← hp.items]
  · intro i hi
    -- an item stands in its section, and the section behind its marker
    obtain ⟨bytes, hbytes, hstands⟩ := hp.data.standsAt hp.dataBytes hi
    refine ⟨bytes, hbytes, ?_⟩
    split
    · have hwithin := hstands.within Program.dataMarker []
      rw [List.append_nil] at hwithin
      exact hwithin
    · rw [List.append_assoc (Program.dataMarker ++ D)]
      exact hstands.within Program.dataMarker (Program.codeMarker ++ C)
  · intro i hi
    obtain ⟨bytes, hbytes, hstands⟩ := hp.code.standsAt hp.codeBytes hi
    refine ⟨bytes, hbytes, ?_⟩
    have hwithin := hstands.within (Program.dataMarker ++ D ++ Program.codeMarker) []
    have hfront :
        ((Program.dataMarker ++ D ++ Program.codeMarker).length : Int) = 12 + D.length := by
      rw [List.length_append, List.length_append]
      show ((6 + D.length + 6 : Nat) : Int) = _
      omega
    rw [hfront, List.append_nil] at hwithin
    -- since there is a code item, the code section is there
    rw [if_neg (List.ne_nil_of_mem hi)]
    exact hwithin

/-- A program with a data item and two instructions, of which the second is four bytes in. -/
theorem image_layout_hiddenSource :
    assemble .default hiddenSource = .ok hiddenProgram ∧
    hiddenProgram.all.toList = hiddenProgram.items ∧
    ∃ image : Bytes, hiddenProgram.image = .ok image ∧
      image = Bytes.ofString ".data:" ++ [0, 3]
        ++ Bytes.ofString ".code:" ++ [0x53, 0, 0, 5, 0, 0] ∧
      Bytes.StandsAt [0, 0] (12 + 2 + (0x5804 - 0x5800)) image := by
  refine ⟨assemble_hiddenSource, ?_⟩
  obtain ⟨hall, -, D, C, image, hD, hC, himage, heq, -, -, -, hcode⟩ :=
    image_layout .default hiddenSource hiddenProgram assemble_hiddenSource
  cases Except.ok.inj (show Except.ok [0, 3] = Except.ok D from hD)
  cases Except.ok.inj (show Except.ok [0x53, 0, 0, 5, 0, 0] = Except.ok C from hC)
  obtain ⟨bytes, hbytes, hstands⟩ :=
    hcode ⟨4, Bytes.ofString "L: nop", 0x5804, none, some (.derive ⟨0⟩ .none .none)⟩
      (by decide +kernel)
  cases Except.ok.inj (show Except.ok [0, 0] = Except.ok bytes from hbytes)
  exact ⟨hall, image, himage, heq, hstands⟩

end TwoPass
