import TwoPass.Proofs.Program.Image

/-!
# The code marker — where an image can be split

An image has its data in front of the code marker, and nothing says how long the data is.  A
reader that looks for the first code marker behind the data marker finds the right one unless
the data contains it: the marker has its first byte nowhere else, so no occurrence can start in
the data and end in the marker itself (`infix_of_standsAt`), whatever the data ends with.
-/

namespace TwoPass

namespace Bytes

variable {part whole front D C : Bytes} {start k : Nat}

/-- The first offset, at or behind a given one, at which a text stands in another. -/
def firstFrom (part : Bytes) (start : Nat) (whole : Bytes) : Option Nat :=
  (List.range (whole.length + 1)).find? fun k => start ≤ k && part.isPrefixOf (whole.drop k)

/-- A text stands in another where the other, cut there, starts with it. -/
theorem standsAt_iff_prefix :
    part.StandsAt k whole ↔ k < whole.length + 1 ∧ part.isPrefixOf (whole.drop k) = true := by
  rw [List.isPrefixOf_iff_prefix]
  constructor
  · rintro ⟨before, behind, rfl, hlen⟩
    obtain rfl : before.length = k := by omega
    refine ⟨by rw [List.append_assoc, List.length_append]; omega, behind, ?_⟩
    rw [List.append_assoc, List.drop_left]
  · rintro ⟨hk, behind, hcut⟩
    refine ⟨whole.take k, behind, ?_, ?_⟩
    · rw [List.append_assoc, hcut, List.take_append_drop]
    · rw [List.length_take]
      omega

/-- The first offset is one at which the text stands, and there is none before it. -/
theorem firstFrom_eq_some :
    part.firstFrom start whole = some k ↔
      start ≤ k ∧ part.StandsAt k whole ∧ ∀ j : Nat, start ≤ j → j < k → ¬ part.StandsAt j whole := by
  simp only [firstFrom, List.find?_range_eq_some, standsAt_iff_prefix, List.mem_range,
    Bool.and_eq_true, decide_eq_true_iff, Bool.not_eq_true', Bool.and_eq_false_iff]
  constructor
  · rintro ⟨⟨hstart, hpart⟩, hk, hnone⟩
    refine ⟨hstart, ⟨hk, hpart⟩, fun j hj hlt hstands => ?_⟩
    rcases hnone j hlt with hnot | hnot
    · exact absurd hj (of_decide_eq_false hnot)
    · exact Bool.false_ne_true (hnot.symm.trans hstands.2)
  · rintro ⟨hstart, ⟨hk, hpart⟩, hnone⟩
    refine ⟨⟨hstart, hpart⟩, hk, fun j hlt => ?_⟩
    by_cases hj : start ≤ j
    · exact Or.inr (Bool.eq_false_iff.mpr fun hstands => hnone j hj hlt ⟨by omega, hstands⟩)
    · exact Or.inl (decide_eq_false hj)

/-- A part is not found exactly if it stands nowhere behind the start. -/
theorem firstFrom_eq_none :
    part.firstFrom start whole = none ↔ ∀ j : Nat, start ≤ j → ¬ part.StandsAt j whole := by
  simp only [firstFrom, List.find?_range_eq_none, standsAt_iff_prefix, Bool.not_eq_true',
    Bool.and_eq_false_iff]
  constructor
  · rintro hnone j hj ⟨hlt, hstands⟩
    rcases hnone j hlt with hnot | hnot
    · exact absurd hj (of_decide_eq_false hnot)
    · exact Bool.false_ne_true (hnot.symm.trans hstands)
  · intro hnone j hlt
    by_cases hj : start ≤ j
    · exact Or.inr (Bool.eq_false_iff.mpr fun hstands => hnone j hj ⟨hlt, hstands⟩)
    · exact Or.inl (decide_eq_false hj)

/-- What is contained in a text stands in it somewhere before its end. -/
theorem exists_standsAt_of_infix (h : part <:+: whole) :
    ∃ j : Nat, j + part.length ≤ whole.length ∧ part.StandsAt j whole := by
  obtain ⟨before, behind, rfl⟩ := h
  refine ⟨before.length, ?_, before, behind, rfl, rfl⟩
  rw [List.length_append, List.length_append]
  omega

/-- Behind something in front, a text stands where it stands without it. -/
theorem standsAt_of_append (h : part.StandsAt k (front ++ whole)) (hk : front.length ≤ k) :
    ∃ j : Nat, k = front.length + j ∧ part.StandsAt j whole := by
  obtain ⟨before, behind, heq, hlen⟩ := h
  rw [List.append_assoc] at heq
  rcases List.append_eq_append_iff.mp heq with ⟨rest, rfl, hrest⟩ | ⟨rest, rfl, hrest⟩
  · rw [List.length_append] at hlen
    exact ⟨rest.length, by omega, rest, behind, by rw [hrest, List.append_assoc], rfl⟩
  · -- the two beginnings are equally long
    rw [List.length_append] at hk
    obtain rfl : rest = [] := List.eq_nil_of_length_eq_zero (by omega)
    refine ⟨0, by rw [List.append_nil]; omega, [], behind, ?_, rfl⟩
    rw [List.nil_append, ← List.nil_append whole, ← hrest]

/-- A text that has its first byte nowhere else. -/
def StartsOnce (part : Bytes) : Prop := ∃ b t, part = b :: t ∧ b ∉ t

/-- Such a text is contained in the data in front of it if it also stands at an earlier place. -/
theorem infix_of_standsAt (hpart : part.StartsOnce) (h : part.StandsAt k (D ++ part ++ C))
    (hk : k < D.length) : part <:+: D := by
  obtain ⟨b, t, rfl, hb⟩ := hpart
  obtain ⟨before, behind, heq, hlen⟩ := h
  rw [List.append_assoc, List.append_assoc] at heq
  -- the occurrence starts in the data, with some of the data behind its start
  obtain ⟨rest, rfl, hrest⟩ : ∃ rest, D = before ++ rest ∧
      rest ++ (b :: t ++ C) = b :: t ++ behind := by
    rcases List.append_eq_append_iff.mp heq with ⟨x, rfl, -⟩ | ⟨x, hx, hx'⟩
    · rw [List.length_append] at hlen
      omega
    · exact ⟨x, hx, hx'.symm⟩
  have hne : rest ≠ [] := by
    rintro rfl
    rw [List.append_nil] at hk
    omega
  rcases List.append_eq_append_iff.mp hrest with ⟨x, hx, hx'⟩ | ⟨x, rfl, -⟩
  · -- it would reach into the text itself, whose first byte it has only at its own start
    cases x with
    | nil =>
        rw [List.append_nil] at hx
        exact ⟨before, [], by rw [List.append_nil, hx]⟩
    | cons b' x =>
        obtain ⟨rfl, -⟩ := List.cons.inj hx'
        cases rest with
        | nil => exact absurd rfl hne
        | cons d rest =>
            obtain ⟨-, rfl⟩ := List.cons.inj hx
            exact absurd (List.mem_append_right rest List.mem_cons_self) hb
  · exact ⟨before, x, by rw [List.append_assoc]⟩

/-- It is found first where it was put exactly if the data does not contain it. -/
theorem firstFrom_append (hpart : part.StartsOnce) (front D C : Bytes) :
    part.firstFrom front.length (front ++ D ++ part ++ C) = some (front.length + D.length) ↔
      ¬ part <:+: D := by
  have hpos : 0 < part.length := by
    obtain ⟨b, t, rfl, -⟩ := hpart
    exact Nat.succ_pos _
  rw [firstFrom_eq_some]
  constructor
  · rintro ⟨-, -, hnone⟩ hinfix
    obtain ⟨j, hj, hstands⟩ := exists_standsAt_of_infix hinfix
    refine hnone (front.length + j) (by omega) (by omega) ?_
    have hwithin := hstands.within front (part ++ C)
    rwa [← List.append_assoc (front ++ D)] at hwithin
  · intro hnot
    refine ⟨by omega, ⟨front ++ D, C, rfl, by rw [List.length_append]⟩, ?_⟩
    intro j hstart hlt hstands
    rw [List.append_assoc front, List.append_assoc front] at hstands
    obtain ⟨i, rfl, hdata⟩ := standsAt_of_append hstands hstart
    exact hnot (infix_of_standsAt hpart hdata (by omega))

/-- A text is not found behind what stands in front exactly if it is not contained there. -/
theorem firstFrom_absent (part front D : Bytes) :
    part.firstFrom front.length (front ++ D) = none ↔ ¬ part <:+: D := by
  rw [firstFrom_eq_none]
  constructor
  · intro hnone hinfix
    obtain ⟨j, -, hstands⟩ := exists_standsAt_of_infix hinfix
    refine hnone (front.length + j) (by omega) ?_
    have hwithin := hstands.within front []
    rwa [List.append_nil] at hwithin
  · intro hnot j hstart hstands
    obtain ⟨i, rfl, before, behind, rfl, -⟩ := standsAt_of_append hstands hstart
    exact hnot ⟨before, behind, rfl⟩

end Bytes

/-- **SPLITTING AN IMAGE.**  In the image of an assembled program, the bytes behind the code
    marker are those of the instructions.  The first code marker behind the data marker is this
    one, or absent where there is no instruction, exactly if the data does not contain it. -/
theorem image_split (c : Config) (texts : List Bytes) (p : Program)
    (h : assemble c texts = .ok p) :
    ∃ D C image : Bytes,
      Item.joined p.dataItems.toList = .ok D ∧ Item.joined p.codeItems.toList = .ok C ∧
      p.image = .ok image ∧
      (p.codeItems.toList ≠ [] → image.drop (6 + D.length + 6) = C) ∧
      (Program.codeMarker.firstFrom 6 image =
          (if p.codeItems.toList = [] then none else some (6 + D.length)) ↔
        ¬ Program.codeMarker <:+: D) := by
  obtain ⟨D, C, hp⟩ := placed_of_assemble h
  have himage := Program.image_of_joined hp.one hp.dataBytes hp.codeBytes
  refine ⟨D, C, _, hp.dataBytes, hp.codeBytes, himage, ?_, ?_⟩
  · intro hcode
    have hlen : (Program.dataMarker ++ D ++ Program.codeMarker).length = 6 + D.length + 6 := by
      rw [List.length_append, List.length_append]
      rfl
    rw [if_neg hcode, ← hlen, List.drop_left]
  · by_cases hcode : p.codeItems.toList = []
    · rw [if_pos hcode, if_pos hcode]
      exact Bytes.firstFrom_absent Program.codeMarker Program.dataMarker D
    · rw [if_neg hcode, if_neg hcode]
      exact Bytes.firstFrom_append ⟨_, _, rfl, by decide⟩ Program.dataMarker D C

/-- A source whose data ends with the first bytes of the marker. -/
def truncatedSource : List Bytes := [".array 0x2e 0x63 0x6f", ".code", "nop"].map Bytes.ofString

/-- A source whose data contains the marker. -/
def decoySource : List Bytes := [".asciiz `.code:`", ".code", "nop"].map Bytes.ofString

/-- The first of the two images can be split at the marker, the second cannot. -/
theorem image_split_truncated_decoy :
    (∃ p image, assemble .default truncatedSource = .ok p ∧ p.image = .ok image ∧
      Program.codeMarker.firstFrom 6 image = some 9) ∧
    (∃ p image, assemble .default decoySource = .ok p ∧ p.image = .ok image ∧
      Program.codeMarker.firstFrom 6 image ≠ some 13) := by
  constructor
  · obtain ⟨p, hp⟩ : ∃ p, assemble .default truncatedSource = .ok p := ⟨_, rfl⟩
    obtain ⟨D, C, image, hD, -, himage, -, hfirst⟩ := image_split .default truncatedSource p hp
    cases Except.ok.inj (show _ = Except.ok p from hp)
    cases Except.ok.inj (show Except.ok [0x2e, 0x63, 0x6f] = Except.ok D from hD)
    exact ⟨_, image, hp, himage, hfirst.mpr (by decide)⟩
  · obtain ⟨p, hp⟩ : ∃ p, assemble .default decoySource = .ok p := ⟨_, rfl⟩
    obtain ⟨D, C, image, hD, -, himage, -, hfirst⟩ := image_split .default decoySource p hp
    cases Except.ok.inj (show _ = Except.ok p from hp)
    cases Except.ok.inj
      (show Except.ok (Program.codeMarker ++ [0]) = Except.ok D from hD)
    exact ⟨_, image, hp, himage, fun heq => hfirst.mp heq ⟨[], [0], rfl⟩⟩

end TwoPass
