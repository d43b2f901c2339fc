import TwoPass.Proofs.Program.Outputs
import TwoPass.Proofs.Text.Hex

/-!
# The listing — read back column by column

A listing shows an address, the bytes there and the source text on each line.  Its columns have no
fixed places: an address above `ffff` has more than four digits, and bytes that do not fit into
eight columns push the source text to the right.  Still a line says where its columns are, since
none of the digits is a blank (`Row.ofLine_text`).  Read back, the columns of an assembled program
give its image without the markers, and each address is the one behind the bytes of the line in
front (`Chained.lists`).
-/

namespace TwoPass

namespace Row

/-- The columns of a line: the address ends at the first blank and the bytes at the next one;
    the source text is what is behind the filled column and two blanks, up to the newline. -/
def ofLine (line : Bytes) : Row :=
  let address := line.takeWhile (· != ' '.toUInt8)
  let behind := line.drop (address.length + 2)
  let hex := behind.takeWhile (· != ' '.toUInt8)
  ⟨address, hex, (behind.drop (max 8 hex.length + 2)).dropLast⟩

/-- There are digits in the first two columns, and at least four in the first. -/
structure Formed (r : Row) : Prop where
  address : ∀ b ∈ r.address, Bytes.isHexDigit b = true
  width : 4 ≤ r.address.length
  hex : ∀ b ∈ r.hex, Bytes.isHexDigit b = true

/-- The bytes that rows show, one behind the other. -/
def joined (rows : List Row) : Option Bytes :=
  (rows.mapM fun r => Bytes.ofHex? r.hex).map List.flatten

/-- The first of the rows shows the given address, every other one the address behind the
    bytes that the row in front of it shows. -/
def Follows : Nat → List Row → Prop
  | _, [] => True
  | a, r :: rows => Bytes.ofHexDigits? r.address = some a ∧
      ∃ bytes, Bytes.ofHex? r.hex = some bytes ∧ Follows (a + bytes.length) rows

/-- What rows show of the items of a section that starts at a base: a row for each item with its
    source text, the bytes of the section, and addresses from the base on. -/
structure Lists (rows : List Row) (base : Nat) (items : List Item) (bytes : Bytes) : Prop where
  shows : List.Forall₂ (fun r i => r.Formed ∧ r.source = i.line) rows items
  bytes : joined rows = some bytes
  addresses : Follows base rows

/-- A column of digits ends at the first blank. -/
theorem takeWhile_digits {digits : Bytes} (h : ∀ b ∈ digits, Bytes.isHexDigit b = true)
    (n : Nat) (rest : Bytes) :
    (digits ++ (List.replicate (n + 1) ' '.toUInt8 ++ rest)).takeWhile (· != ' '.toUInt8) =
      digits := by
  have hdigits : ∀ b ∈ digits, (b != ' '.toUInt8) = true := by
    intro b hb
    exact bne_iff_ne.mpr (Bytes.ne_blank_of_isHexDigit (h b hb))
  rw [List.takeWhile_append_of_pos hdigits, List.replicate_succ, List.cons_append,
    List.takeWhile_cons_of_neg (by decide), List.append_nil]

/-- The blanks that fill a column and those behind it are one run. -/
theorem text_eq (r : Row) :
    r.text = r.address ++ (List.replicate 2 ' '.toUInt8 ++
      (r.hex ++ (List.replicate (8 - r.hex.length + 2) ' '.toUInt8 ++
        (r.source ++ ['\n'.toUInt8])))) := by
  have hgap : Bytes.ofString "  " = List.replicate 2 ' '.toUInt8 := rfl
  rw [text, hgap, List.replicate_add]
  simp only [List.append_assoc]

/-- **COLUMNS FROM A LINE.**  The columns are found again, however long they are. -/
theorem ofLine_text {r : Row} (h : r.Formed) : ofLine r.text = r := by
  have haddress : r.text.takeWhile (· != ' '.toUInt8) = r.address := by
    rw [text_eq]
    exact takeWhile_digits h.address 1 _
  have hbehind : r.text.drop (r.address.length + 2) =
      r.hex ++ (List.replicate (8 - r.hex.length + 2) ' '.toUInt8 ++
        (r.source ++ ['\n'.toUInt8])) := by
    rw [text_eq, ← List.append_assoc]
    exact List.drop_left' (by rw [List.length_append, List.length_replicate])
  have hsource : ∀ rest : Bytes,
      (r.hex ++ (List.replicate (8 - r.hex.length + 2) ' '.toUInt8 ++ rest)).drop
        (max 8 r.hex.length + 2) = rest := by
    intro rest
    rw [← List.append_assoc]
    refine List.drop_left' ?_
    rw [List.length_append, List.length_replicate]
    omega
  simp only [ofLine, haddress, hbehind, takeWhile_digits h.hex, hsource, List.dropLast_concat]

/-- One more row shows its bytes in front. -/
theorem joined_cons {r : Row} {rows : List Row} {first rest : Bytes}
    (hfirst : Bytes.ofHex? r.hex = some first) (hrest : joined rows = some rest) :
    joined (r :: rows) = some (first ++ rest) := by
  obtain ⟨parts, hparts, rfl⟩ := Option.map_eq_some_iff.mp hrest
  refine Option.map_eq_some_iff.mpr ⟨first :: parts, ?_, rfl⟩
  exact mapM_eq_some.mpr (.cons hfirst (mapM_eq_some.mp hparts))

end Row

/-- The row of an item whose address is not negative. -/
theorem Item.formed_row {i : Item} {a : Nat} (h : i.address = a) (bytes : Bytes) :
    (i.row bytes).Formed := by
  constructor
  · rw [row, h]
    exact Bytes.isHexDigit_of_mem_hexPadded
  · rw [row, h]
    exact Bytes.le_length_hexPadded 4 a
  · exact Bytes.isHexDigit_of_mem_toHex

/-- The lines for the items of a chain, read back. -/
theorem Chained.lists {a : Nat} {e : Int} {items : List Item} {all : Bytes}
    (h : Chained a items e) (hall : Item.joined items = .ok all) :
    ∃ rows : List Row, Row.Lists rows a items all ∧
      List.Forall₂ Item.ListedAs items (rows.map Row.text) := by
  induction items generalizing a all with
  | nil =>
      cases Except.ok.inj (Item.joined_nil.symm.trans hall)
      exact ⟨[], ⟨.nil, rfl, trivial⟩, .nil⟩
  | cons i items ih =>
      obtain ⟨first, rest, hfirst, hrest, rfl⟩ := Item.joined_cons_eq_ok.mp hall
      cases h with
      | @cons _ _ _ _ bytes haddress hbytes hchain =>
          -- the chain and the joined bytes speak of the same bytes of the first item
          cases Except.ok.inj (hfirst.symm.trans hbytes)
          rw [← Int.natCast_add] at hchain
          obtain ⟨rows, hlists, hlisted⟩ := ih hchain hrest
          -- what the columns of its row are read back as
          have hread : Bytes.ofHex? (i.row first).hex = some first := Bytes.ofHex?_toHex first
          refine ⟨i.row first :: rows, ⟨?_, ?_, ?_, first, hread, hlists.addresses⟩, ?_⟩
          · exact .cons ⟨Item.formed_row haddress first, rfl⟩ hlists.shows
          · exact Row.joined_cons hread hlists.bytes
          · rw [Item.row, haddress]
            exact Bytes.ofHexDigits?_hexPadded 4 a
          · exact .cons ⟨first, hfirst, rfl⟩ hlisted

/-- **THE LISTING AGREES WITH THE IMAGE.**  The listing of an assembled program is written with one
    call for each item, in the order of the items, and it is written without a fault: all lines if
    nothing holds them up, and the first of them, one for each call, if the sink takes fewer.  Each
    line is cut into its columns in the way in which it was put together from them.  The bytes in
    the columns of the data items and then of the code items are the image without its two markers,
    and in either section the addresses lead from the base over those bytes. -/
theorem listing_agrees (c : Config) (texts : List Bytes) (p : Program)
    (h : assemble c texts = .ok p) :
    ∃ (lines : List Bytes) (dataRows codeRows : List Row) (D C : Bytes),
      lines.length = p.items.length ∧
      p.writeListing none = (lines.flatten, none) ∧
      (∀ n, p.writeListing (some n) =
        ((lines.take n).flatten, if n < lines.length then some .sinkFull else none)) ∧
      lines.map Row.ofLine = dataRows ++ codeRows ∧ (dataRows ++ codeRows).map Row.text = lines ∧
      p.items = p.dataItems.toList ++ p.codeItems.toList ∧
      Row.Lists dataRows c.dataBase.toNat p.dataItems.toList D ∧
      Row.Lists codeRows c.codeBase.toNat p.codeItems.toList C ∧
      p.image = .ok (Program.dataMarker ++ D ++
        (if p.codeItems.toList = [] then [] else Program.codeMarker) ++ C) := by
  obtain ⟨D, C, hp⟩ := placed_of_assemble h
  obtain ⟨dataRows, hdata, hdataLines⟩ := hp.data.lists hp.dataBytes
  obtain ⟨codeRows, hcode, hcodeLines⟩ := hp.code.lists hp.codeBytes
  -- no item is without bytes, so the listing goes through data and code to the end
  have hlisting : Program.listingOf p.all.toList =
      ((dataRows ++ codeRows).map Row.text, none) := by
    rw [Program.all_eq, Program.listingOf_append hdataLines,
      ← List.append_nil p.codeItems.toList, Program.listingOf_append hcodeLines, List.map_append]
    simp only [Program.listingOf, List.append_nil]
  refine ⟨(dataRows ++ codeRows).map Row.text, dataRows, codeRows, D, C, ?_,
    Program.writeListing_none hlisting, Program.writeListing_some hlisting, ?_, rfl, hp.items,
    hdata, hcode, ?_⟩
  · rw [List.length_map, List.length_append, hdata.shows.length_eq, hcode.shows.length_eq,
      ← List.length_append, ← hp.items]
  · have hformed : ∀ r ∈ dataRows ++ codeRows, r.Formed := by
      intro r hr
      obtain ⟨i, -, hformed, -⟩ :=
        exists_of_mem_forall₂ (List.rel_append hdata.shows hcode.shows) hr
      exact hformed
    calc ((dataRows ++ codeRows).map Row.text).map Row.ofLine
      _ = (dataRows ++ codeRows).map (Row.ofLine ∘ Row.text) := List.map_map
      _ = (dataRows ++ codeRows).map id :=
          List.map_congr_left fun r hr => Row.ofLine_text (hformed r hr)
      _ = dataRows ++ codeRows := List.map_id _
  · exact Program.image_of_bytes hp.one hp.dataBytes hp.codeBytes

/-- Data at the last address of four digits. -/
def wideConfig : Config := ⟨0xffff, 0x5800, none⟩

/-- A source with no bytes on the first line, more than fit into the column on the second, and
    an address of five digits on the third. -/
def wideSource : List Bytes :=
  [".array", ".asciiz `wide`", "x: .byte 7", ".code", "nop"].map Bytes.ofString

/-- What it assembles to. -/
def wideProgram : Program where
  items :=
    [⟨1, Bytes.ofString ".array", 0xffff, some [], none⟩,
      ⟨2, Bytes.ofString ".asciiz `wide`", 0xffff, some (Bytes.ofString "wide" ++ [0]), none⟩,
      ⟨3, Bytes.ofString "x: .byte 7", 0x10004, some [7], none⟩,
      ⟨5, Bytes.ofString "nop", 0x5800, none, some (.derive ⟨0⟩ .none .none)⟩]
  labels := ⟨[⟨Bytes.ofString "x", ⟨0x10004, .data⟩⟩]⟩

/-- No column is cut off, be it too long or empty. -/
theorem listing_agrees_wideSource :
    assemble wideConfig wideSource = .ok wideProgram ∧
    ∃ (dataRows codeRows : List Row) (D C : Bytes),
      ((dataRows ++ codeRows).map Row.text).flatten =
        Bytes.ofString "ffff            .array\nffff  7769646500  .asciiz `wide`\n" ++
        Bytes.ofString "10004  07        x: .byte 7\n5800  0000      nop\n" ∧
      Row.Lists dataRows 0xffff wideProgram.dataItems.toList D ∧
      Row.Lists codeRows 0x5800 wideProgram.codeItems.toList C ∧
      Program.dataMarker ++ D ++ Program.codeMarker ++ C =
        Bytes.ofString ".data:wide" ++ [0, 7] ++ Bytes.ofString ".code:" ++ [0, 0] := by
  have hassemble : assemble wideConfig wideSource = .ok wideProgram := rfl
  obtain ⟨lines, dataRows, codeRows, D, C, -, hwrite, -, -, rfl, -, hdata, hcode, himage⟩ :=
    listing_agrees wideConfig wideSource wideProgram hassemble
  refine ⟨hassemble, dataRows, codeRows, D, C, ?_, hdata, hcode, ?_⟩
  · rw [show ((dataRows ++ codeRows).map Row.text).flatten = (wideProgram.writeListing none).1 from
      (congrArg Prod.fst hwrite).symm]
    decide +kernel
  · exact Except.ok.inj (himage.symm.trans rfl)

end TwoPass
