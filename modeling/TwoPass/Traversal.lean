/-!
# Traversals — sequences consumed until the consumer has enough

A traversal is a nest of lists, concatenations and filters.  It can be listed, or driven
through a consumer that keeps a state and says after each element whether it wants more.
-/

namespace TwoPass

/-- A sequence of elements, described by how it is put together. -/
inductive Traversal (α : Type) where
  | items (elements : List α)
  | append (first second : Traversal α)
  | filter (keep : α → Bool) (inner : Traversal α)

namespace Traversal

variable {α σ : Type}

/-- A consumer: it takes a state and an element, and gives the next state and whether it
    wants to go on. -/
abbrev Consumer (σ α : Type) := σ → α → σ × Bool

/-- The traversals of a list, one after the other. -/
def concat (parts : List (Traversal α)) : Traversal α := parts.foldr append (items [])

/-- The elements in order. -/
def toList : Traversal α → List α
  | items elements => elements
  | append first second => first.toList ++ second.toList
  | filter keep inner => inner.toList.filter keep

/-- A consumer that is shown only the elements that pass a test. -/
def gate (keep : α → Bool) (consume : Consumer σ α) : Consumer σ α :=
  fun s x => if keep x then consume s x else (s, true)

/-- Shows the elements of a list to a consumer until it has enough. -/
def driveList (consume : Consumer σ α) : σ → List α → σ × Bool
  | s, [] => (s, true)
  | s, x :: xs =>
    match consume s x with
    | (s, true) => driveList consume s xs
    | (s, false) => (s, false)

/-- Shows the elements to a consumer until it has enough; the flag says whether it
    wanted to go on behind the last one. -/
def drive : Traversal α → Consumer σ α → σ → σ × Bool
  | items elements, consume, s => driveList consume s elements
  | append first second, consume, s =>
    match first.drive consume s with
    | (s, true) => second.drive consume s
    | (s, false) => (s, false)
  | filter keep inner, consume, s => inner.drive (gate keep consume) s

/-- Keeps elements, the latest in front, until a number of them has come; all of them if
    there is no bound. -/
def collect (bound : Option Nat) : Consumer (List α × Nat) α := fun (seen, count) x =>
  ((x :: seen, count + 1), bound.all (count + 1 < ·))

end Traversal

end TwoPass
