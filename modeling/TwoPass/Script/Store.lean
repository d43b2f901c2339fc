import TwoPass.Script.Dictionary
import TwoPass.Script.Tree

/-!
# The store of a running script

Lists, dictionaries, functions and the variables of a block live in cells of a store.  A
running script is an action on the store that may fail; what was printed before a failure
stays.
-/

namespace TwoPass

namespace Script

/-- A parameter with the value it takes when no argument is given. -/
inductive Formal where
  | required (name : Bytes)
  | optional (name : Bytes) (value : Value)
  | rest (name : Option Bytes)
  | restNamed (name : Bytes)

/-- What a function runs: an expression, or statements with the variables they assign. -/
inductive Body where
  | expression (value : Expr)
  | statements (locals : List Bytes) (block : List Stmt)

/-- Where names are looked up: the variables of one block among those of a function that is
    running.  A function's own block has the number zero, a comprehension its own number. -/
structure Scope where
  frame : Nat
  block : Nat

/-- A function with the blocks around it, the innermost in front. -/
structure Closure where
  number : Nat
  name : Bytes
  formals : List Formal
  body : Body
  scopes : List Scope

/-- A variable of a block; it has no value before it is first assigned. -/
structure Variable where
  block : Nat
  name : Bytes
  value : Option Value

/-- What a cell holds.  Lists and dictionaries count the loops that go over them. -/
inductive Cell where
  | list (items : List Value) (readers : Nat)
  | dict (content : Dictionary) (readers : Nat)
  | frame (slots : List Variable)
  | closure (function : Closure)
  deriving Inhabited

/-- The cells, and what was printed, the latest in front. -/
structure Store where
  cells : Array Cell
  printed : List Bytes

/-- A step of a running script. -/
abbrev Act := OptionT (StateM Store)

/-- The arguments of a call. -/
structure Arguments where
  positional : List Value
  named : List (Bytes × Value)

namespace Store

/-- The store before a script runs. -/
def empty : Store := ⟨#[], []⟩

/-- The items of a list. -/
def items (s : Store) (cell : Nat) : List Value :=
  match s.cells[cell]? with
  | some (.list items _) => items
  | _ => []

/-- The content of a dictionary. -/
def dictionary (s : Store) (cell : Nat) : Dictionary :=
  match s.cells[cell]? with
  | some (.dict content _) => content
  | _ => .empty

/-- The entries of a dictionary in order of insertion. -/
def entries (s : Store) (cell : Nat) : List (Value × Value) := (s.dictionary cell).toList

/-- The variables of a running function. -/
def slots (s : Store) (cell : Nat) : List Variable :=
  match s.cells[cell]? with
  | some (.frame slots) => slots
  | _ => []

/-- The function of a cell. -/
def closure? (s : Store) (cell : Nat) : Option Closure :=
  match s.cells[cell]? with
  | some (.closure f) => some f
  | _ => none

/-- How many loops go over a list or dictionary. -/
def readers (s : Store) (cell : Nat) : Nat :=
  match s.cells[cell]? with
  | some (.list _ readers) => readers
  | some (.dict _ readers) => readers
  | _ => 0

/-- The store with another number of loops over a list or dictionary. -/
def setReaders (s : Store) (cell readers : Nat) : Store :=
  match s.cells[cell]? with
  | some (.list items _) => { s with cells := s.cells.setIfInBounds cell (.list items readers) }
  | some (.dict content _) => { s with cells := s.cells.setIfInBounds cell (.dict content readers) }
  | _ => s

/-- The store with another cell, and its number. -/
def push (s : Store) (c : Cell) : Nat × Store := (s.cells.size, { s with cells := s.cells.push c })

/-- The store with a cell replaced. -/
def put (s : Store) (cell : Nat) (c : Cell) : Store :=
  { s with cells := s.cells.setIfInBounds cell c }

/-- Whether a block has a variable of a name. -/
def declares (s : Store) (scope : Scope) (name : Bytes) : Bool :=
  (s.slots scope.frame).any fun v => v.block = scope.block && v.name = name

/-- The value of a variable, if it has been assigned. -/
def valueOf? (s : Store) (scope : Scope) (name : Bytes) : Option Value :=
  (s.slots scope.frame).findSome? fun v =>
    if v.block = scope.block && v.name = name then v.value else none

/-- The store with a variable of a block assigned. -/
def assign (s : Store) (scope : Scope) (name : Bytes) (value : Value) : Store :=
  s.put scope.frame (.frame ((s.slots scope.frame).map fun v =>
    if v.block = scope.block && v.name = name then { v with value := some value } else v))

/-- The store with variables of a block, those that it has already as they are. -/
def declare (s : Store) (scope : Scope) (names : List Bytes) : Store :=
  let new := names.eraseDups.filter fun n => !s.declares scope n
  s.put scope.frame (.frame (s.slots scope.frame ++ new.map fun n => ⟨scope.block, n, none⟩))

end Store

namespace Act

/-- Makes a new cell. -/
def allocate (c : Cell) : Act Nat := modifyGet fun s => s.push c

/-- Makes a list. -/
def newList (items : List Value) : Act Value := do return .list (← allocate (.list items 0))

/-- Makes a dictionary. -/
def newDict (content : Dictionary) : Act Value := do
  return .dict (← allocate (.dict content 0))

/-- Makes the variables of a function that starts to run, without values. -/
def newFrame (names : List Bytes) : Act Nat :=
  allocate (.frame (names.eraseDups.map fun n => ⟨0, n, none⟩))

/-- What a partial function of the store gives, or a failure. -/
def read {α : Type} (f : Store → Option α) : Act α := do
  match f (← get) with
  | some x => return x
  | none => failure

/-- What an optional result gives, or a failure. -/
def lift {α : Type} : Option α → Act α
  | some x => return x
  | none => failure

/-- Replaces the items of a list over which no loop goes. -/
def setItems (cell : Nat) (items : List Value) : Act Unit := do
  unless (← get).readers cell = 0 do failure
  modify fun s => s.put cell (.list items 0)

/-- Replaces the content of a dictionary over which no loop goes. -/
def setDictionary (cell : Nat) (content : Dictionary) : Act Unit := do
  unless (← get).readers cell = 0 do failure
  modify fun s => s.put cell (.dict content 0)

/-- Prints a message. -/
def print (message : Bytes) : Act Unit :=
  modify fun s => { s with printed := message :: s.printed }

end Act

end Script

end TwoPass
