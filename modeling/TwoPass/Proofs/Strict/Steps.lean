import TwoPass.Enumeration
import TwoPass.Fault
import TwoPass.Proofs.Success

/-!
# Strict steps — computations that are stuck outside the domain of an operation

An index, a slice or a look-up in a table has a result only on part of its inputs.  A total
program can hide this: it gives such an operation a default, or takes its input apart so that
the question does not come up.  In `Strict` the operation is written as it stands, and a
computation that uses it outside its domain is stuck, which is different from every fault.

`total x` is the computation that is never stuck and does what `x` does.  A strict computation
is shown to be of that form part by part (`total_bind`, `mapM_total`, `foldlM_total`), and each
operation where its domain is known (`slice_eq`, `item_eq`, `lookup_eq`).
-/

namespace TwoPass

variable {α β σ : Type}

/-- A computation that gives a result or a fault, or is stuck. -/
abbrev Strict (α : Type) := ExceptT Fault Option α

namespace Strict

/-- A computation that is never stuck. -/
def total (x : Except Fault α) : Strict α := ExceptT.mk (some x)

/-- An operation that is stuck where it has no result. -/
def within (x : Option α) : Strict α := ExceptT.mk (x.map .ok)

theorem within_some (a : α) : within (some a) = total (.ok a) := rfl

theorem pure_eq (a : α) : (pure a : Strict α) = total (.ok a) := rfl

theorem throw_eq (f : Fault) : (throw f : Strict α) = total (.error f) := rfl

@[simp] theorem total_ok_bind (a : α) (F : α → Strict β) : (total (.ok a) >>= F) = F a := rfl

/-- What follows a computation need only be total on the results that the computation has. -/
theorem total_bind {x : Except Fault α} {F : α → Strict β} {f : α → Except Fault β}
    (h : ∀ a, x = .ok a → F a = total (f a)) : (total x >>= F) = total (x >>= f) := by
  cases x with
  | error e => rfl
  | ok a => exact h a rfl

theorem map_total (f : α → β) (x : Except Fault α) :
    (total x >>= fun a => pure (f a)) = total (x.map f) := by
  cases x with
  | error e => rfl
  | ok a => rfl

theorem total_map_bind {γ : Type} (x : Except Fault α) (f : α → β) (F : β → Strict γ) :
    (total (x.map f) >>= F) = total x >>= fun a => F (f a) := by
  cases x with
  | error e => rfl
  | ok a => rfl

/-- The fault of a computation, put in its place. -/
theorem adapt_total (locate : Fault → Fault) (x : Except Fault α) :
    ExceptT.adapt locate (total x) = total (x.mapError locate) := rfl

/-- A list of steps that all stay within bounds does so as a whole. -/
theorem mapM_total {F : α → Strict β} {f : α → Except Fault β} {xs : List α}
    (h : ∀ x ∈ xs, F x = total (f x)) : xs.mapM F = total (xs.mapM f) := by
  induction xs with
  | nil => rfl
  | cons x xs ih =>
      rw [List.mapM_cons, List.mapM_cons, h x List.mem_cons_self,
        ih fun y hy => h y (List.mem_cons_of_mem _ hy)]
      refine total_bind fun b _ => ?_
      exact total_bind fun bs _ => rfl

/-- So does a loop. -/
theorem foldlM_total {F : σ → α → Strict σ} {f : σ → α → Except Fault σ} {xs : List α}
    (h : ∀ s, ∀ x ∈ xs, F s x = total (f s x)) (s : σ) : xs.foldlM F s = total (xs.foldlM f s) := by
  induction xs generalizing s with
  | nil => rfl
  | cons x xs ih =>
      rw [List.foldlM_cons, List.foldlM_cons, h s x List.mem_cons_self]
      exact total_bind fun t _ => ih (fun s y hy => h s y (List.mem_cons_of_mem _ hy)) t

/-! ## Operations with a domain -/

/-- The element at a position. -/
def item (xs : List α) (i : Nat) : Strict α := within xs[i]?

/-- The elements from one position up to another. -/
def slice (xs : List α) (start stop : Nat) : Strict (List α) :=
  within (if start ≤ stop ∧ stop ≤ xs.length then some ((xs.take stop).drop start) else none)

/-- The entry of a table that an integer stands for; a number out of range is told beforehand. -/
def lookup (table : List α) (n : Int) : Strict (Option α) :=
  if n < 0 ∨ table.length ≤ n then pure none else some <$> item table n.toNat

/-- An item that is there can be looked at. -/
theorem item_eq {xs : List α} {i : Nat} {x : α} (h : xs[i]? = some x) :
    item xs i = total (.ok x) := by
  rw [item, h, within_some]

/-- A part that is there can be cut out. -/
theorem slice_eq {xs part : List α} {start stop : Nat} (before behind : List α)
    (hxs : xs = before ++ part ++ behind) (hstart : start = before.length)
    (hstop : stop = before.length + part.length) : slice xs start stop = total (.ok part) := by
  subst hxs hstart hstop
  have hdomain : before.length ≤ before.length + part.length ∧
      before.length + part.length ≤ (before ++ part ++ behind).length := by
    rw [List.length_append, List.length_append]
    omega
  have htake : (before ++ part ++ behind).take (before.length + part.length) = before ++ part :=
    List.take_left' List.length_append
  rw [slice, if_pos hdomain, htake, List.drop_left, within_some]

/-- A table is never read outside its range. -/
theorem lookup_eq (table : List α) (n : Int) :
    lookup table n = total (.ok (Enumeration.lookup? table n)) := by
  rw [lookup, Enumeration.lookup?]
  by_cases hneg : n < 0
  · rw [if_pos (Or.inl hneg), if_neg (by omega)]
    rfl
  · rw [if_pos (show 0 ≤ n by omega)]
    by_cases hout : table.length ≤ n
    · rw [if_pos (Or.inr hout), List.getElem?_eq_none (by omega)]
      rfl
    · rw [if_neg (by omega), item_eq (List.getElem?_eq_getElem (by omega : n.toNat < table.length)),
        List.getElem?_eq_getElem (by omega)]
      rfl

end Strict

/-! ## Positions of a byte -/

namespace Bytes

variable {b : UInt8} {front rest : Bytes}

/-- The position of the first occurrence of a byte. -/
def firstIndex? (b : UInt8) (s : Bytes) : Option Nat := s.idxOf? b

/-- The position of the last occurrence of a byte. -/
def lastIndex? (b : UInt8) (s : Bytes) : Option Nat :=
  (firstIndex? b s.reverse).map (s.length - 1 - ·)

/-- The first place of a byte is behind what does not hold it. -/
theorem firstIndex?_append (h : b ∉ front) (rest : Bytes) :
    firstIndex? b (front ++ b :: rest) = some front.length := by
  induction front with
  | nil => exact List.idxOf?_cons.trans (if_pos (beq_self_eq_true b))
  | cons c front ih =>
      have hc : ¬ (c == b) = true := fun he => h (beq_iff_eq.mp he ▸ List.mem_cons_self)
      have hrest := ih fun hmem => h (List.mem_cons_of_mem _ hmem)
      rw [firstIndex?] at hrest ⊢
      rw [List.cons_append, List.idxOf?_cons, if_neg hc, hrest]
      rfl

theorem firstIndex?_of_not_mem {s : Bytes} (h : b ∉ s) : firstIndex? b s = none :=
  List.idxOf?_eq_none_iff.mpr h

/-- The last place of a byte is in front of what does not hold it. -/
theorem lastIndex?_append (front : Bytes) (h : b ∉ rest) :
    lastIndex? b (front ++ b :: rest) = some front.length := by
  have hcut : (front ++ b :: rest).reverse = rest.reverse ++ b :: front.reverse := by
    rw [List.reverse_append, List.reverse_cons, List.append_assoc, List.singleton_append]
  rw [lastIndex?, hcut, firstIndex?_append (mt List.mem_reverse.mp h), Option.map_some,
    List.length_append, List.length_cons, List.length_reverse]
  congr 1
  omega

/-- A byte does not occur in a text, occurs once, or has a first and a last occurrence. -/
theorem occurrences (b : UInt8) (s : Bytes) :
    b ∉ s ∨ (∃ front behind, s = front ++ b :: behind ∧ b ∉ front ∧ b ∉ behind) ∨
      ∃ front text behind, s = front ++ b :: text ++ b :: behind ∧ b ∉ front ∧ b ∉ behind := by
  by_cases hmem : b ∈ s
  · right
    obtain ⟨front, rest, rfl, hfront⟩ := List.eq_append_cons_of_mem hmem
    by_cases hrest : b ∈ rest
    · obtain ⟨behind, text, hcut, hbehind⟩ :=
        List.eq_append_cons_of_mem (List.mem_reverse.mpr hrest)
      have hrest : rest = text.reverse ++ b :: behind.reverse := by
        rw [← List.reverse_reverse rest, hcut]
        simp
      refine Or.inr ⟨front, text.reverse, behind.reverse, ?_, hfront, ?_⟩
      · rw [hrest, List.append_assoc, List.cons_append]
      · exact mt List.mem_reverse.mp hbehind
    · exact Or.inl ⟨front, rest, rfl, hfront, hrest⟩
  · exact Or.inl hmem

end Bytes

end TwoPass
