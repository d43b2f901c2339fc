import TwoPass.Proofs.Source.Lines
import TwoPass.Proofs.Text.Numerals
import TwoPass.Proofs.Yaml.Words
import TwoPass.Symbols.Map

/-!
# Symbol maps — what is written is read back

A reader of symbol maps goes line by line.  A line is a field, and a dash in front of it starts
another entry; an entry has a name, an address and a section in any order.  A text in double quotes
is its contents, and a word without quotes is a truth value or null if it is one of the words for
these, a number if it is written like one, and else itself.

Names of labels and sections are tame, so each field is read as what was written in it, and a map is
read as the entries of its table in their order (`read?_symbolMap`).
-/

namespace TwoPass

namespace SymbolMap

open Bytes

/-! ## The reader -/

/-- What a scalar stands for: a text, a whole number, or a truth value or null. -/
inductive Scalar where
  | text (s : Bytes)
  | number (n : Int)
  | constant
  deriving DecidableEq, Repr

/-- The text of a scalar, if it is one. -/
def Scalar.text? : Scalar → Option Bytes
  | text s => some s
  | _ => none

/-- The whole number of a scalar, if it is one. -/
def Scalar.number? : Scalar → Option Int
  | number n => some n
  | _ => none

/-- The words for truth values and null, in lower case. -/
def constants : List String := ["y", "n", "yes", "no", "on", "off", "true", "false", "null"]

/-- A letter in upper case. -/
def upper (b : UInt8) : UInt8 := if 'a'.toUInt8 ≤ b && b ≤ 'z'.toUInt8 then b - 32 else b

/-- A word in lower case, with a capital, and in upper case. -/
def spellings (word : Bytes) : List Bytes :=
  [word, (word.take 1).map upper ++ word.drop 1, word.map upper]

/-- The words for truth values and null in every spelling. -/
def constantWords : List Bytes := constants.flatMap fun w => spellings (ofString w)

/-- Whether a word without quotes is no text but a truth value or null. -/
def isConstant (s : Bytes) : Bool := constantWords.contains s

/-- The whole number that is written in decimal. -/
def integer? (s : Bytes) : Option Int :=
  match s with
  | [] => none
  | b :: rest =>
    if b = '-'.toUInt8 then
      if rest = [] then none else (Yaml.digits? 10 rest).map fun n => -(n : Int)
    else (Yaml.digits? 10 s).map fun n => (n : Int)

/-- What a word without quotes stands for. -/
def ofWord (s : Bytes) : Scalar :=
  if isConstant s then .constant
  else match integer? s with
    | some n => .number n
    | none => .text s

/-- The text in front of a double quote at the end.  There are no escapes in it. -/
def contents? (s : Bytes) : Option Bytes :=
  match s.splitAt? '"'.toUInt8 with
  | some (text, []) => if '\\'.toUInt8 ∈ text then none else some text
  | _ => none

/-- What a scalar stands for. -/
def scalar? (s : Bytes) : Option Scalar :=
  match s with
  | [] => none
  | b :: rest => if b = '"'.toUInt8 then (contents? rest).map .text else some (ofWord s)

/-- The text behind a mark. -/
def behind? (mark line : Bytes) : Option Bytes :=
  if mark.isPrefixOf line then some (line.drop mark.length) else none

/-- A key and its value, with a colon and a blank between them. -/
def field? (s : Bytes) : Option (Bytes × Bytes) :=
  match s.splitAt? ':'.toUInt8 with
  | some (key, b :: value) => if b = ' '.toUInt8 then some (key, value) else none
  | _ => none

/-- The field on a line, and whether it starts another entry. -/
def line? (line : Bytes) : Option (Bool × Bytes × Bytes) :=
  match behind? (ofString "    - ") line, behind? (ofString "      ") line with
  | some rest, _ => (field? rest).map fun f => (true, f)
  | none, some rest => (field? rest).map fun f => (false, f)
  | none, none => none

/-- Puts a field in front of others: the fields in front of which no entry has started yet, and the
    fields of each entry. -/
def groupStep : Bool × Bytes × Bytes → List (Bytes × Bytes) × List (List (Bytes × Bytes)) →
    List (Bytes × Bytes) × List (List (Bytes × Bytes))
  | (true, f), (pending, groups) => ([], (f :: pending) :: groups)
  | (false, f), (pending, groups) => (f :: pending, groups)

/-- The fields of each entry. -/
def group? (lines : List (Bool × Bytes × Bytes)) : Option (List (List (Bytes × Bytes))) :=
  match lines.foldr groupStep ([], []) with
  | ([], groups) => some groups
  | _ => none

/-- An entry: a name, an address, and the name of a section. -/
structure Entry where
  name : Bytes
  address : Int
  space : Bytes
  deriving DecidableEq, Repr

/-- The entry that fields make up. -/
def entry? (fields : List (Bytes × Bytes)) : Option Entry := do
  guard (fields.length = 3)
  let name ← (← scalar? (← fields.lookup (ofString "name"))).text?
  let address ← (← scalar? (← fields.lookup (ofString "address"))).number?
  let space ← (← scalar? (← fields.lookup (ofString "section"))).text?
  return ⟨name, address, space⟩

/-- The entries of a symbol map. -/
def read? (text : Bytes) : Option (List Entry) :=
  match text.rawLines with
  | [] => none
  | first :: lines =>
    if first = ofString "symbols: []" then if lines = [] then some [] else none
    else if first = ofString "symbols:" ∧ lines ≠ [] then do
      (← group? (← lines.mapM line?)).mapM entry?
    else none

/-! ## Scalars -/

theorem isConstant_iff {s : Bytes} : isConstant s = true ↔ s ∈ constantWords :=
  List.contains_iff_mem

/-- The words that are quoted are those that would not be read as text. -/
theorem isConstant_of_tame {s : Bytes} (h : Yaml.Tame s) : isConstant s = Yaml.readsAsValue s := by
  have hquoted : ∀ w ∈ constantWords,
      (Yaml.isOneOf Yaml.valueWords w || Yaml.isOneOf Yaml.formerWords w) = true := by decide
  have hread : ∀ w ∈ Yaml.valueWords ++ Yaml.formerWords,
      (ofString w).head?.any (fun b => isWord b && !isDigit b) = true →
        isConstant (ofString w) = true := by decide
  rw [h.readsAsValue_eq, Bool.eq_iff_iff]
  constructor
  · intro hs
    exact hquoted s (isConstant_iff.mp hs)
  · intro hs
    rw [Yaml.isOneOf, Yaml.isOneOf, ← List.any_append, List.any_eq_true] at hs
    obtain ⟨w, hw, hs⟩ := hs
    obtain rfl := of_decide_eq_true hs
    refine hread w hw ?_
    obtain ⟨b, rest, hstart, hword, hdigit⟩ := h.start
    rw [hstart, List.head?_cons, Option.any_some, hword, hdigit]
    rfl

/-- Digits behind a value already read. -/
theorem digits?_of_spells {base : Numeral.Base} {text : Bytes} {ds : List Nat}
    (h : Numeral.Spells base text ds) (n : Nat) :
    text.foldlM (fun n b =>
      match Numeral.digitValue? b with
      | some d => if d < base.radix then some (n * base.radix + d) else none
      | none => none) n = some (joinDigits base.radix n ds) := by
  induction h generalizing n with
  | nil => rfl
  | @cons b d text ds hdigit _ ih =>
      obtain ⟨hwrites, hd⟩ := hdigit
      have hlt := Nat.lt_of_lt_of_le hd base.radix_le
      have hvalue := (Numeral.digitValue?_eq_some_iff hlt).mpr hwrites
      rw [List.foldlM_cons, hvalue]
      simp only [hd, if_true]
      exact ih _

/-- A decimal number is read as its value. -/
theorem digits?_decimalNat (n : Nat) : Yaml.digits? 10 (decimalNat n) = some n := by
  have hspells : Numeral.Spells .decimal (decimalNat n) (digits 10 n) := by
    rw [Numeral.Spells, decimalNat, List.forall₂_map_left_iff, List.forall₂_same]
    intro d hd
    exact ⟨Or.inl rfl, digits_lt 10 n (by decide) d hd⟩
  exact (digits?_of_spells hspells 0).trans (congrArg some (joinDigits_digits 10 n))

/-- A number is read back from decimal. -/
theorem integer?_decimal (a : Int) : integer? (decimal a) = some a := by
  cases a with
  | negSucc n =>
      rw [decimal, integer?, if_pos rfl, if_neg (decimalNat_ne_nil _), digits?_decimalNat]
      rfl
  | ofNat n =>
      obtain ⟨b, rest, hn⟩ := List.exists_cons_of_ne_nil (decimalNat_ne_nil n)
      have hb : b ≠ '-'.toUInt8 := by
        have hdigit := isDigit_of_mem_decimalNat b (hn ▸ List.mem_cons_self)
        rintro rfl
        exact absurd hdigit (by decide)
      rw [decimal, hn, integer?, if_neg hb, ← hn, digits?_decimalNat]
      rfl

/-- A tame text is no number. -/
theorem integer?_of_tame {s : Bytes} (h : Yaml.Tame s) : integer? s = none := by
  obtain ⟨b, rest, rfl, hword, hdigit⟩ := h.start
  have hall : ∀ b : UInt8, isWord b = true → isDigit b = false →
      b ≠ '-'.toUInt8 ∧ (Numeral.digitValue? b).all (fun d => decide (10 ≤ d)) = true :=
    forall_byte (by decide +kernel)
  obtain ⟨hminus, hlarge⟩ := hall b hword hdigit
  rw [integer?, if_neg hminus, Yaml.digits?, List.foldlM_cons]
  cases hvalue : Numeral.digitValue? b with
  | none => rfl
  | some d =>
      rw [hvalue] at hlarge
      have hd : 10 ≤ d := of_decide_eq_true hlarge
      simp only [Nat.not_lt.mpr hd, if_false]
      rfl

/-- A tame text as it is written: in double quotes if it would be read as a constant. -/
def written (s : Bytes) : Bytes :=
  if isConstant s then '"'.toUInt8 :: s ++ ['"'.toUInt8] else s

/-- A tame text is written on one line. -/
theorem scalar_of_tame {s : Bytes} (h : Yaml.Tame s) (indent : Nat) :
    Yaml.scalar indent s = Yaml.onLine (written s) := by
  rw [h.scalar_eq, written, isConstant_of_tame h]

/-- Quotes around a tame text are found again. -/
theorem contents?_of_tame {s : Bytes} (h : Yaml.Tame s) :
    contents? (s ++ ['"'.toUInt8]) = some s := by
  have hquote : '"'.toUInt8 ∉ s := fun hmem => absurd (h.bytes _ hmem) (by decide)
  have hbackslash : '\\'.toUInt8 ∉ s := fun hmem => absurd (h.bytes _ hmem) (by decide)
  rw [contents?, splitAt?_eq_some.mpr ⟨rfl, hquote⟩]
  exact if_neg hbackslash

/-- **A TAME TEXT IS READ BACK,** whether or not it was quoted. -/
theorem scalar?_written {s : Bytes} (h : Yaml.Tame s) : scalar? (written s) = some (.text s) := by
  rw [written]
  split
  · rw [List.cons_append, scalar?, if_pos rfl, contents?_of_tame h]
    rfl
  · rename_i hconstant
    obtain ⟨b, rest, hs, hword, -⟩ := h.start
    have hb : b ≠ '"'.toUInt8 := by
      rintro rfl
      exact absurd hword (by decide)
    rw [hs, scalar?, if_neg hb, ← hs, ofWord, if_neg hconstant, integer?_of_tame h]

/-- An address is read back. -/
theorem scalar?_decimal (a : Int) : scalar? (decimal a) = some (.number a) := by
  obtain ⟨b, rest, ha⟩ := List.exists_cons_of_ne_nil (decimal_ne_nil a)
  have hb : isDigit b = true ∨ b = '-'.toUInt8 := mem_decimal b (ha ▸ List.mem_cons_self)
  have hconstant : isConstant (decimal a) = false := by
    have hall : ∀ w ∈ constantWords,
        w.head?.any (fun b => isDigit b || b == '-'.toUInt8) = false := by decide
    rw [Bool.eq_false_iff]
    intro hmem
    have hhead := hall _ (isConstant_iff.mp hmem)
    rw [ha, List.head?_cons, Option.any_some, Bool.or_eq_false_iff, beq_eq_false_iff_ne] at hhead
    rcases hb with hb | hb
    · exact absurd hb (hhead.1 ▸ Bool.false_ne_true)
    · exact hhead.2 hb
  have hquote : b ≠ '"'.toUInt8 := by
    rintro rfl
    exact absurd hb (by decide)
  rw [ha, scalar?, if_neg hquote, ← ha, ofWord, hconstant, integer?_decimal]
  rfl

/-! ## Names -/

/-- Names of labels are tame. -/
theorem tame_of_isIdentifier {name : Bytes} (h : Label.isIdentifier name = true) :
    Yaml.Tame name := by
  cases name with
  | nil => cases h
  | cons b rest =>
      rw [Label.isIdentifier, Bool.and_eq_true, Bool.not_eq_true', List.all_eq_true] at h
      obtain ⟨hdigit, hword⟩ := h
      refine ⟨fun c hc => ?_, b, rest, rfl, hword b List.mem_cons_self, hdigit⟩
      rw [Yaml.isTame, hword c hc]
      rfl

/-- A section has one of three names, or is written with its number. -/
theorem name_cases (s : Section) :
    s.name ∈ Section.enumeration.names ∨
      ofString s.name = ofString "Section(" ++ (decimal s.number ++ ofString ")") := by
  rw [Section.name, Enumeration.name]
  cases hlookup : Enumeration.lookup? Section.enumeration.names s.number with
  | some name =>
      rw [Enumeration.lookup?, Option.ite_none_right_eq_some] at hlookup
      exact Or.inl (List.mem_of_getElem? hlookup.2)
  | none =>
      right
      show ofString (toString "Section" ++ "(" ++ toString s.number ++ ")") = _
      rw [ofString_append, ofString_append, ofString_toString_int, List.append_assoc]
      rfl

/-- The names of sections are tame, and none of them is quoted. -/
theorem tame_sectionName (s : Section) :
    Yaml.Tame (ofString s.name) ∧ isConstant (ofString s.name) = false := by
  rcases name_cases s with h | h
  · have hall : ∀ name ∈ Section.enumeration.names, Label.isIdentifier (ofString name) = true ∧
        isConstant (ofString name) = false := by decide
    exact ⟨tame_of_isIdentifier (hall _ h).1, (hall _ h).2⟩
  · rw [h]
    constructor
    · refine ⟨fun b hb => ?_, 'S'.toUInt8, _, rfl, by decide, by decide⟩
      rcases List.mem_append.mp hb with hb | hb
      · exact List.all_eq_true.mp (by decide : (ofString "Section(").all Yaml.isTame = true) b hb
      · rcases List.mem_append.mp hb with hb | hb
        · rcases mem_decimal b hb with hdigit | rfl
          · rw [Yaml.isTame, isWord, hdigit, Bool.or_true]
            rfl
          · decide
        · exact List.all_eq_true.mp (by decide : (ofString ")").all Yaml.isTame = true) b hb
    · have hall : ∀ w ∈ constantWords, '('.toUInt8 ∉ w := by decide
      rw [Bool.eq_false_iff]
      intro hmem
      refine hall _ (isConstant_iff.mp hmem) (List.mem_append_left _ ?_)
      decide

theorem written_sectionName (s : Section) : written (ofString s.name) = ofString s.name := by
  rw [written, (tame_sectionName s).2]
  rfl

/-! ## Lines -/

theorem rawLines_onLine {l : Bytes} (h : newline ∉ l) (rest : Bytes) :
    rawLines (Yaml.onLine l ++ rest) = l :: rawLines rest := by
  induction l with
  | nil => exact pieceStep_self newline (rawLines rest)
  | cons b l ih =>
      have hb : b ≠ newline := (List.ne_of_not_mem_cons h).symm
      show pieceStep newline b (rawLines (Yaml.onLine l ++ rest)) = _
      rw [ih (List.not_mem_of_not_mem_cons h), pieceStep_of_ne hb]

/-- Lines that are written one below the other are found again. -/
theorem rawLines_flatMap {lines : List Bytes} (h : ∀ l ∈ lines, newline ∉ l) :
    rawLines (lines.flatMap Yaml.onLine) = lines := by
  induction lines with
  | nil => rfl
  | cons l lines ih =>
      rw [List.flatMap_cons, rawLines_onLine (h l List.mem_cons_self),
        ih fun l' hl' => h l' (List.mem_cons_of_mem l hl')]

def entryLines (e : SymbolEntry) : List Bytes :=
  [ ofString "    - name: " ++ written e.name, ofString "      address: " ++ decimal e.symbol.address,
    ofString "      section: " ++ ofString e.symbol.space.name ]

theorem mapEntry_eq {e : SymbolEntry} (h : Label.isIdentifier e.name = true) :
    LabelTable.mapEntry e = (entryLines e).flatMap Yaml.onLine := by
  rw [LabelTable.mapEntry, scalar_of_tame (tame_of_isIdentifier h),
    scalar_of_tame (tame_sectionName e.symbol.space).1, written_sectionName]
  simp only [entryLines, List.flatMap_cons, List.flatMap_nil, Yaml.onLine, List.append_assoc,
    List.append_nil]
  rfl

theorem newline_notMem_of_tame {s : Bytes} (h : Yaml.Tame s) : newline ∉ s :=
  fun hmem => absurd (h.bytes _ hmem) (by decide)

theorem newline_notMem_written {s : Bytes} (h : Yaml.Tame s) : newline ∉ written s := by
  rw [written]
  split
  · intro hmem
    rcases List.mem_append.mp hmem with hmem | hmem
    · rcases List.mem_cons.mp hmem with hmem | hmem
      · exact absurd hmem (by decide)
      · exact newline_notMem_of_tame h hmem
    · exact absurd hmem (by decide)
  · exact newline_notMem_of_tame h

theorem newline_notMem_decimal (a : Int) : newline ∉ decimal a := by
  intro hmem
  rcases mem_decimal _ hmem with h | h
  · exact absurd h (by decide)
  · exact absurd h (by decide)

/-- No line of an entry is broken. -/
theorem newline_notMem_entryLines {e : SymbolEntry} (h : Label.isIdentifier e.name = true) :
    ∀ l ∈ entryLines e, newline ∉ l := by
  have happend : ∀ {mark rest : Bytes}, newline ∉ mark → newline ∉ rest → newline ∉ mark ++ rest :=
    fun hmark hrest hmem => (List.mem_append.mp hmem).elim hmark hrest
  intro l hl
  simp only [entryLines, List.mem_cons, List.not_mem_nil, or_false] at hl
  rcases hl with rfl | rfl | rfl
  · exact happend (by decide) (newline_notMem_written (tame_of_isIdentifier h))
  · exact happend (by decide) (newline_notMem_decimal _)
  · exact happend (by decide) (newline_notMem_of_tame (tame_sectionName _).1)

/-- The fields on the lines of an entry. -/
def entryFields (e : SymbolEntry) : List (Bool × Bytes × Bytes) :=
  [ (true, ofString "name", written e.name), (false, ofString "address", decimal e.symbol.address),
    (false, ofString "section", ofString e.symbol.space.name) ]

/-- Line by line, the fields are read back. -/
theorem mapM_line? (entries : List SymbolEntry) :
    (entries.flatMap entryLines).mapM line? = some (entries.flatMap entryFields) := by
  induction entries with
  | nil => rfl
  | cons e entries ih =>
      have he : (entryLines e).mapM line? = some (entryFields e) := rfl
      rw [List.flatMap_cons, List.mapM_append, he, ih, List.flatMap_cons]
      rfl

/-- A dash in front of each first field keeps the entries apart. -/
theorem group?_entryFields (entries : List SymbolEntry) :
    group? (entries.flatMap entryFields) =
      some (entries.map fun e => (entryFields e).map Prod.snd) := by
  have hfold : (entries.flatMap entryFields).foldr groupStep ([], []) =
      ([], entries.map fun e => (entryFields e).map Prod.snd) := by
    induction entries with
    | nil => rfl
    | cons e entries ih =>
        rw [List.flatMap_cons, List.foldr_append, ih]
        rfl
  rw [group?, hfold]

/-- What is shown of a label. -/
def shown (e : SymbolEntry) : Entry :=
  ⟨e.name, e.symbol.address, ofString e.symbol.space.name⟩

/-- The fields of an entry make the entry. -/
theorem entry?_entryFields {e : SymbolEntry} (h : Label.isIdentifier e.name = true) :
    entry? ((entryFields e).map Prod.snd) = some (shown e) := by
  have hname := scalar?_written (tame_of_isIdentifier h)
  have hspace := scalar?_written (tame_sectionName e.symbol.space).1
  rw [written_sectionName] at hspace
  show (scalar? (written e.name)).bind (fun name => name.text?.bind fun name =>
    (scalar? (decimal e.symbol.address)).bind fun address => address.number?.bind fun address =>
    (scalar? (ofString e.symbol.space.name)).bind fun space => space.text?.bind fun space =>
    some (Entry.mk name address space)) = _
  rw [hname, scalar?_decimal, hspace]
  rfl

/-- The lines of a map that is not empty. -/
theorem symbolMap_eq {entries : List SymbolEntry}
    (h : ∀ e ∈ entries, Label.isIdentifier e.name = true) :
    ofString "symbols:\n" ++ entries.flatMap LabelTable.mapEntry =
      (ofString "symbols:" :: entries.flatMap entryLines).flatMap Yaml.onLine := by
  have hentries : entries.flatMap LabelTable.mapEntry =
      (entries.flatMap entryLines).flatMap Yaml.onLine := by
    rw [List.flatMap_assoc]
    exact List.flatMap_congr fun e he => mapEntry_eq (h e he)
  rw [List.flatMap_cons, hentries]
  rfl

/-- Below its first line, a map is read line by line and then entry by entry. -/
theorem read?_of_rawLines {text : Bytes} {lines : List Bytes}
    (h : text.rawLines = ofString "symbols:" :: lines) (hne : lines ≠ []) :
    read? text = (lines.mapM line?).bind fun fields =>
      (group? fields).bind fun groups => groups.mapM entry? := by
  have hfirst : ofString "symbols:" ≠ ofString "symbols: []" := by decide
  simp only [read?, h, if_neg hfirst, hne, ne_eq, not_false_eq_true, and_self, if_true]
  rfl

/-- The map of a table is read as what is shown of its labels. -/
theorem read?_symbolMap {t : LabelTable}
    (h : ∀ e ∈ t.entries, Label.isIdentifier e.name = true) :
    read? t.symbolMap = some (t.symbols.map shown) := by
  have hsymbols : ∀ e ∈ t.symbols, Label.isIdentifier e.name = true :=
    fun e he => h e (List.mem_mergeSort.mp he)
  rw [LabelTable.symbolMap]
  cases hentries : t.symbols with
  | nil => rfl
  | cons e entries =>
      rw [hentries] at hsymbols
      -- no text in the map breaks its lines, so it is cut where it was put together
      have hlines : ∀ l ∈ ofString "symbols:" :: (e :: entries).flatMap entryLines,
          newline ∉ l := by
        intro l hl
        rcases List.mem_cons.mp hl with rfl | hl
        · decide
        · obtain ⟨e', he', hl⟩ := List.mem_flatMap.mp hl
          exact newline_notMem_entryLines (hsymbols e' he') l hl
      have hread : ((e :: entries).map fun e => (entryFields e).map Prod.snd).mapM entry? =
          some ((e :: entries).map shown) := by
        rw [mapM_eq_some, List.forall₂_map_left_iff, List.forall₂_map_right_iff, List.forall₂_same]
        exact fun e' he' => entry?_entryFields (hsymbols e' he')
      show read? (ofString "symbols:\n" ++ (e :: entries).flatMap LabelTable.mapEntry) = _
      have hne : (e :: entries).flatMap entryLines ≠ [] := List.cons_ne_nil _ _
      rw [symbolMap_eq hsymbols, read?_of_rawLines (rawLines_flatMap hlines) hne, mapM_line?,
        Option.bind_some, group?_entryFields, Option.bind_some, hread]

/-- **A SYMBOL MAP TELLS ALL OF ITS TABLE.**  The map of a table whose names are identifiers is
    read as the labels of the table in the order in which they are shown, with their addresses and
    the names of their sections.  So tables that differ in a name, an address or the name of a
    section have different maps. -/
theorem symbolMap_read_back (t : LabelTable)
    (h : ∀ e ∈ t.entries, Label.isIdentifier e.name = true) :
    read? t.symbolMap = some (t.symbols.map shown) ∧
    ∀ t' : LabelTable, (∀ e ∈ t'.entries, Label.isIdentifier e.name = true) →
      t'.symbolMap = t.symbolMap → (t'.entries.map shown).Perm (t.entries.map shown) := by
  refine ⟨read?_symbolMap h, fun t' h' heq => ?_⟩
  have hsame : t'.symbols.map shown = t.symbols.map shown := by
    have hread := read?_symbolMap h'
    rw [heq, read?_symbolMap h] at hread
    exact (Option.some.inj hread).symm
  have hsorted : ∀ t : LabelTable, (t.symbols.map shown).Perm (t.entries.map shown) :=
    fun t => (List.mergeSort_perm t.entries LabelTable.le).map shown
  exact (hsorted t').symm.trans (hsame ▸ hsorted t)

/-- Two labels, one of which is also a word for a truth value, at addresses below zero and in a
    section without a name. -/
def falseFriends : LabelTable :=
  ⟨[⟨ofString "main", ⟨-6, .data⟩⟩, ⟨ofString "no", ⟨-5, ⟨7⟩⟩⟩]⟩

/-- A name that would be a truth value without quotes, and a section without a name of its own. -/
theorem symbolMap_read_back_falseFriends :
    (∀ e ∈ falseFriends.entries, Label.isIdentifier e.name = true) ∧
      read? falseFriends.symbolMap = some [⟨ofString "main", -6, ofString "data"⟩,
        ⟨ofString "no", -5, ofString "Section(7)"⟩] := by
  have hnames : ∀ e ∈ falseFriends.entries, Label.isIdentifier e.name = true := by decide
  have hsorted : falseFriends.symbols = falseFriends.entries :=
    List.mergeSort_of_pairwise (by decide)
  have hread := (symbolMap_read_back falseFriends hnames).1
  rw [hsorted] at hread
  exact ⟨hnames, hread⟩

-- without quotes the same word is no name
example : read? (ofString "symbols:\n    - name: no\n      address: 1\n      section: data\n") = none :=
  rfl

end SymbolMap

end TwoPass
