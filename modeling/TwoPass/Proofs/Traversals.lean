import TwoPass.Traversal

/-!
# Traversals — a consumer is called until it has enough

A nest of lists, concatenations and filters is driven as the list of its elements would be
(`drive_eq`): the flag that a part hands back carries the wish to stop over every boundary.  Going
through a list calls the consumer on the elements up to and including the first on which it has
enough (`driveList_logged`).

A feed has no flag to hand back.  It passes its elements to a callback, and a loop over it must
remember by itself that its body had enough (`Feed.loop`).  Feeds that are put together of lists in
the same way run as their lists would, too (`Feed.Lists.run_eq`).
-/

namespace TwoPass

namespace Traversal

variable {α σ : Type}

/-! ## Lists -/

/-- What a consumer answers if it is shown all elements of a list. -/
def answers (consume : Consumer σ α) : σ → List α → List Bool
  | _, [] => []
  | s, x :: xs => (consume s x).2 :: answers consume (consume s x).1 xs

/-- The elements up to and including the first on which a consumer has enough. -/
def heard (consume : Consumer σ α) (s : σ) (xs : List α) : List α :=
  xs.take ((answers consume s xs).idxOf false + 1)

/-- The state of a consumer that has been called on the elements of a list. -/
def after (consume : Consumer σ α) (s : σ) (xs : List α) : σ :=
  xs.foldl (fun s x => (consume s x).1) s

/-- A consumer with a record of its calls, the latest behind. -/
def logged (consume : Consumer σ α) : Consumer (List α × σ) α :=
  fun (calls, s) x => ((calls ++ [x], (consume s x).1), (consume s x).2)

/-- One element: the consumer goes on with the rest, or has enough. -/
theorem driveList_cons (consume : Consumer σ α) (s : σ) (x : α) (xs : List α) :
    driveList consume s (x :: xs) =
      if (consume s x).2 then driveList consume (consume s x).1 xs
      else ((consume s x).1, false) := by
  rw [driveList]
  cases consume s x with
  | mk s' more => cases more <;> rfl

/-- It has heard the first element in any case. -/
theorem heard_cons (consume : Consumer σ α) (s : σ) (x : α) (xs : List α) :
    heard consume s (x :: xs) =
      x :: if (consume s x).2 then heard consume (consume s x).1 xs else [] := by
  rw [heard, answers, List.idxOf_cons]
  cases (consume s x).2 <;> rfl

/-- Going through a list leaves a consumer as the calls up to the first that is enough do. -/
theorem driveList_eq (consume : Consumer σ α) (s : σ) (xs : List α) :
    driveList consume s xs =
      (after consume s (heard consume s xs), decide (false ∉ answers consume s xs)) := by
  induction xs generalizing s with
  | nil => rfl
  | cons x xs ih =>
      rw [driveList_cons, heard_cons, answers]
      cases (consume s x).2 with
      | false => simp [after]
      | true => simp [ih, after]

/-- A record changes nothing, and the elements that are heard go into it. -/
theorem driveList_logged (consume : Consumer σ α) (calls : List α) (s : σ) (xs : List α) :
    driveList (logged consume) (calls, s) xs =
      ((calls ++ heard consume s xs, (driveList consume s xs).1), (driveList consume s xs).2) := by
  induction xs generalizing calls s with
  | nil => simp [driveList, heard]
  | cons x xs ih =>
      rw [driveList_cons, driveList_cons, heard_cons, logged]
      cases (consume s x).2 with
      | false => rfl
      | true => simp [ih]

/-- The elements behind are looked at only if none in front was enough. -/
theorem driveList_append (consume : Consumer σ α) (s : σ) (xs ys : List α) :
    driveList consume s (xs ++ ys) =
      if (driveList consume s xs).2 then driveList consume (driveList consume s xs).1 ys
      else driveList consume s xs := by
  induction xs generalizing s with
  | nil => rfl
  | cons x xs ih =>
      rw [List.cons_append, driveList_cons, driveList_cons]
      cases (consume s x).2 with
      | false => rfl
      | true => exact ih _

/-- A consumer behind a gate goes through the elements that pass. -/
theorem driveList_gate (keep : α → Bool) (consume : Consumer σ α) (s : σ) (xs : List α) :
    driveList (gate keep consume) s xs = driveList consume s (xs.filter keep) := by
  induction xs generalizing s with
  | nil => rfl
  | cons x xs ih =>
      rw [driveList_cons, gate, List.filter_cons]
      cases keep x with
      | false => exact ih s
      | true => simp [ih, driveList_cons]

/-! ## Nests -/

/-- A nest is driven as the list of its elements would be. -/
theorem drive_eq (t : Traversal α) (consume : Consumer σ α) (s : σ) :
    t.drive consume s = driveList consume s t.toList := by
  induction t generalizing consume s with
  | items elements => rfl
  | append first second ihfirst ihsecond =>
      rw [drive, toList, driveList_append, ihfirst]
      -- the flag of the first part decides whether the second one is begun
      cases driveList consume s first.toList with
      | mk s' more =>
          cases more with
          | false => rfl
          | true => exact ihsecond consume s'
  | filter keep inner ih => rw [drive, toList, ih, driveList_gate]

/-- Traversals one after the other have their elements one after the other. -/
theorem toList_concat (parts : List (Traversal α)) :
    (concat parts).toList = (parts.map toList).flatten := by
  induction parts with
  | nil => rfl
  | cons first rest ih =>
      show first.toList ++ (concat rest).toList = _
      rw [ih, List.map_cons, List.flatten_cons]

/-- The calls of a nest, and how it ends. -/
theorem drive_logged (t : Traversal α) (consume : Consumer σ α) (s : σ) :
    t.drive (logged consume) ([], s) =
      ((heard consume s t.toList, after consume s (heard consume s t.toList)),
        decide (false ∉ answers consume s t.toList)) := by
  rw [drive_eq, driveList_logged, driveList_eq, List.nil_append]

end Traversal

/-! ## Feeds -/

/-- A sequence that passes its elements to a callback, for as long as the callback answers that it
    wants another one.  Nothing is handed back but the callback's state. -/
structure Feed (α : Type) where
  run : {σ : Type} → Traversal.Consumer σ α → σ → σ

namespace Feed

open Traversal

variable {α σ : Type}

/-- The body of a loop, with a note of whether it wants to go on. -/
def noted (body : Consumer σ α) : Consumer (σ × Bool) α :=
  fun (s, _) x => (body s x, (body s x).2)

/-- A loop over a feed: the feed does not tell whether the body had enough, but the note does. -/
def loop (f : Feed α) (body : Consumer σ α) (s : σ) : σ × Bool := f.run (noted body) (s, true)

/-- The feed of a list. -/
def items (elements : List α) : Feed α := ⟨fun yield s => (driveList yield s elements).1⟩

/-- Loops over feeds one after the other, and returns once the callback has had enough. -/
def runAll (yield : Consumer σ α) : σ → List (Feed α) → σ
  | s, [] => s
  | s, f :: rest =>
    match f.loop yield s with
    | (s, true) => runAll yield s rest
    | (s, false) => s

/-- The feeds of a list, one after the other. -/
def concat (parts : List (Feed α)) : Feed α := ⟨fun yield s => runAll yield s parts⟩

/-- The elements of a feed that pass a test. -/
def filter (keep : α → Bool) (f : Feed α) : Feed α :=
  ⟨fun yield s => (f.loop (gate keep yield) s).1⟩

/-- A feed that is put together of lists by concatenation and filters, and the list of its
    elements. -/
inductive Lists : Feed α → List α → Prop
  | items (elements : List α) : Lists (items elements) elements
  | nothing : Lists (concat []) []
  | concat {f : Feed α} {rest : List (Feed α)} {xs ys : List α} (first : Lists f xs)
      (behind : Lists (concat rest) ys) : Lists (concat (f :: rest)) (xs ++ ys)
  | filter {f : Feed α} {xs : List α} (keep : α → Bool) (inner : Lists f xs) :
      Lists (filter keep f) (xs.filter keep)

/-- The note is what going through the list hands back. -/
theorem driveList_noted (body : Consumer σ α) (s : σ) (xs : List α) :
    driveList (noted body) (s, true) xs = (driveList body s xs, (driveList body s xs).2) := by
  induction xs generalizing s with
  | nil => rfl
  | cons x xs ih =>
      rw [driveList_cons, driveList_cons, noted]
      obtain ⟨s', more⟩ := body s x
      cases more with
      | false => rfl
      | true => exact ih s'

/-- A loop over a feed that runs as a list would goes through the list. -/
theorem loop_eq {f : Feed α} {xs : List α}
    (h : ∀ {τ : Type} (yield : Consumer τ α) (s : τ), f.run yield s = (driveList yield s xs).1)
    (body : Consumer σ α) (s : σ) : f.loop body s = driveList body s xs := by
  rw [loop, h, driveList_noted]

/-- A feed runs as the list of its elements would. -/
theorem Lists.run_eq {f : Feed α} {xs : List α} (h : f.Lists xs) (yield : Consumer σ α) (s : σ) :
    f.run yield s = (driveList yield s xs).1 := by
  -- over every state, since a loop runs the feed with a note beside the callback's own state
  induction h generalizing σ with
  | items elements => rfl
  | nothing => rfl
  | @concat f rest xs ys _ _ ihfirst ihrest =>
      show runAll yield s (f :: rest) = _
      rw [runAll, loop_eq ihfirst, driveList_append]
      -- here the note of the loop is the flag
      cases driveList yield s xs with
      | mk s' more =>
          cases more with
          | false => rfl
          | true => exact ihrest yield s'
  | filter keep _ ih =>
      show (loop _ (gate keep yield) s).1 = _
      rw [loop_eq ih, driveList_gate]

/-- The feed of a nest. -/
def ofTraversal : Traversal α → Feed α
  | .items elements => items elements
  | .append first second => concat [ofTraversal first, ofTraversal second]
  | .filter keep inner => filter keep (ofTraversal inner)

/-- The feed of a traversal has its elements. -/
theorem lists_ofTraversal (t : Traversal α) : (ofTraversal t).Lists t.toList := by
  induction t with
  | items elements => exact .items elements
  | append first second ihfirst ihsecond =>
      have h := Lists.concat ihfirst (.concat ihsecond .nothing)
      rwa [List.append_nil] at h
  | filter keep inner ih => exact .filter keep ih

end Feed

namespace Traversal

variable {α σ : Type}

/-- **A CONSUMER IS CALLED UNTIL IT HAS ENOUGH.**  A nest of lists, concatenations and filters calls
    a consumer on the elements of its list in order, up to and including the first on which the
    consumer answers that it has enough, and then never again; the state it leaves is the one behind
    these calls.  Sequences behind one in which the consumer had enough are not begun, even if it
    was the last element of that one.  The same calls are made by every feed of the same list, and
    so by the feed of the nest, which hands back no flag. -/
theorem drive_until_enough (t : Traversal α) (consume : Consumer σ α) (s : σ) :
    t.drive (logged consume) ([], s) =
      ((heard consume s t.toList, after consume s (heard consume s t.toList)),
        decide (false ∉ answers consume s t.toList)) ∧
    t.drive consume s =
      (after consume s (heard consume s t.toList), decide (false ∉ answers consume s t.toList)) ∧
    (∀ parts rest : List (Traversal α), false ∈ answers consume s (parts.map toList).flatten →
      (concat (parts ++ rest)).drive (logged consume) ([], s) =
        ((heard consume s (parts.map toList).flatten,
          after consume s (heard consume s (parts.map toList).flatten)), false)) ∧
    (Feed.ofTraversal t).Lists t.toList ∧
    ∀ f : Feed α, f.Lists t.toList →
      f.run (logged consume) ([], s) =
        (heard consume s t.toList, after consume s (heard consume s t.toList)) := by
  refine ⟨drive_logged t consume s, ?_, ?_, Feed.lists_ofTraversal t, ?_⟩
  · rw [drive_eq, driveList_eq]
  · intro parts rest henough
    have hparts := drive_logged (concat parts) consume s
    rw [toList_concat, decide_eq_false (not_not_intro henough), drive_eq, toList_concat] at hparts
    rw [drive_eq, toList_concat, List.map_append, List.flatten_append, driveList_append, hparts]
    rfl
  · intro f hf
    rw [hf.run_eq, ← drive_eq, drive_logged]

/-- The consumer stops on the last element of the first sequence, and the third is not begun. -/
theorem drive_until_enough_boundary :
    false ∈ answers (collect (some 2)) ([], 0) ([items [1, 2]].map toList).flatten ∧
    (concat ([items [1, 2]] ++ [items [], items [3]])).drive (logged (collect (some 2)))
      ([], ([], 0)) = (([1, 2], ([2, 1], 2)), false) := by
  have henough :
      false ∈ answers (collect (some 2)) ([], 0) ([items [1, 2]].map toList).flatten := by decide
  obtain ⟨-, -, hrest, -⟩ := drive_until_enough (items [1, 2]) (collect (some 2)) ([], 0)
  exact ⟨henough, hrest [items [1, 2]] [items [], items [3]] henough⟩

end Traversal

end TwoPass
