import TwoPass.Program
import TwoPass.Proofs.Success

/-!
# Chains — items that stand one behind the other

The items of one section follow each other without a gap: each has bytes, and the next one
stands at the address behind them.  `Chained a items e` says so of a list of items from the
address `a` up to the address `e`.  Chains are put together end to end (`Chained.append`),
and what the image and the labels need is read off them: the bytes of a chain fill exactly
the addresses between its ends (`Chained.joined`), those of one item stand at the item's
address (`Chained.exists_at`), and the place at which a chain has arrived before a given
line is the address of the next item, or its end (`Chained.arrival`).
-/

namespace TwoPass

/-- Items with bytes, each at the address behind the one before it, from the first address
    up to the second. -/
inductive Chained : Int → List Item → Int → Prop
  | nil (a : Int) : Chained a [] a
  | cons {a e : Int} {item : Item} {items : List Item} {bytes : Bytes}
      (haddress : item.address = a) (hbytes : item.bytes = .ok bytes)
      (hrest : Chained (a + bytes.length) items e) : Chained a (item :: items) e

namespace Item

/-- The bytes of items, one behind the other. -/
def joined (items : List Item) : Except Fault Bytes := (items.mapM bytes).map List.flatten

theorem joined_nil : joined [] = .ok [] := rfl

/-- The bytes of items are those of the first and those of the rest. -/
theorem joined_cons_eq_ok {item : Item} {items : List Item} {all : Bytes} :
    joined (item :: items) = .ok all ↔
      ∃ first rest, item.bytes = .ok first ∧ joined items = .ok rest ∧ all = first ++ rest := by
  simp only [joined, map_eq_ok, mapM_eq_ok, List.forall₂_cons_left_iff]
  constructor
  · rintro ⟨_, ⟨first, parts, hfirst, hparts, rfl⟩, rfl⟩
    exact ⟨first, parts.flatten, hfirst, ⟨parts, hparts, rfl⟩, rfl⟩
  · rintro ⟨first, _, hfirst, ⟨parts, hparts, rfl⟩, rfl⟩
    exact ⟨first :: parts, ⟨first, parts, hfirst, hparts, rfl⟩, rfl⟩

/-- Where items that start at an address have arrived before a line: at the first item of
    that line or a later one, or behind the bytes of all of them. -/
def arrival (base : Int) (items : List Item) (number : Int) : Except Fault Int :=
  match items.find? fun i => number ≤ i.number with
  | some item => .ok item.address
  | none => (joined items).map fun bytes => base + bytes.length

end Item

namespace Chained

variable {a m e : Int} {item : Item} {items items' : List Item}

/-- A chain that starts where another ends prolongs it. -/
theorem append (h : Chained a items m) (h' : Chained m items' e) :
    Chained a (items ++ items') e := by
  induction h with
  | nil => exact h'
  | cons haddress hbytes _ ih => exact .cons haddress hbytes (ih h')

/-- The bytes of a chain fill the addresses between its ends. -/
theorem joined (h : Chained a items e) :
    ∃ bytes, Item.joined items = .ok bytes ∧ e = a + bytes.length := by
  induction h with
  | nil a => exact ⟨[], rfl, (Int.add_zero a).symm⟩
  | @cons a e item items first _ hbytes _ ih =>
      obtain ⟨rest, hrest, he⟩ := ih
      refine ⟨first ++ rest, Item.joined_cons_eq_ok.mpr ⟨first, rest, hbytes, hrest, rfl⟩, ?_⟩
      rw [he, List.length_append]
      omega

/-- The bytes of an item stand among those of its chain as far in as its address is. -/
theorem exists_at (h : Chained a items e) {all : Bytes} (hall : Item.joined items = .ok all)
    (hitem : item ∈ items) :
    ∃ before bytes behind, item.bytes = .ok bytes ∧ all = before ++ bytes ++ behind ∧
      item.address = a + before.length := by
  induction h generalizing all with
  | nil => exact nomatch hitem
  | @cons a e head items first haddress hbytes _ ih =>
      obtain ⟨first', rest, hfirst, hrest, rfl⟩ := Item.joined_cons_eq_ok.mp hall
      cases hbytes.symm.trans hfirst
      rcases List.mem_cons.mp hitem with rfl | hitem
      · exact ⟨[], first, rest, hbytes, rfl, by rw [haddress]; exact (Int.add_zero a).symm⟩
      · obtain ⟨before, bytes, behind, hbytes', rfl, hat⟩ := ih hrest hitem
        refine ⟨first ++ before, bytes, behind, hbytes', ?_, ?_⟩
        · rw [List.append_assoc, List.append_assoc, List.append_assoc]
        · rw [hat, List.length_append]
          omega

/-- Before a line, a chain has arrived where its items of earlier lines end. -/
theorem arrival {number : Int} (h : Chained a items m) (h' : Chained m items' e)
    (hearlier : ∀ i ∈ items, i.number < number) (hlater : ∀ i ∈ items', number ≤ i.number) :
    Item.arrival a (items ++ items') number = .ok m := by
  have hskip : items.find? (fun i => number ≤ i.number) = none := by
    rw [List.find?_eq_none]
    intro i hi
    rw [decide_eq_true_iff]
    exact Int.not_le.mpr (hearlier i hi)
  rw [Item.arrival, List.find?_append, hskip, Option.none_or]
  cases h' with
  | nil =>
      obtain ⟨bytes, hbytes, he⟩ := h.joined
      rw [List.append_nil, hbytes, he]
      rfl
  | @cons _ _ item later _ haddress _ _ =>
      have hnext : (item :: later).find? (fun i => number ≤ i.number) = some item :=
        List.find?_cons_of_pos (decide_eq_true (hlater item List.mem_cons_self))
      rw [hnext]
      exact congrArg Except.ok haddress

end Chained

end TwoPass
