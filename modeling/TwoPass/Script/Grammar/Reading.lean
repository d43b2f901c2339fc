import TwoPass.Script.Token

/-!
# Readers of tokens

A reader takes tokens from the front of a list and gives a result, or gives up.  What can
be repeated always takes a token, so the number of tokens left bounds every repetition.
-/

namespace TwoPass

namespace Script

/-- The tokens that are left, and how many they are. -/
structure Tokens where
  rest : List Token
  size : Nat

/-- A list of tokens. -/
def Tokens.ofList (ts : List Token) : Tokens := ⟨ts, ts.length⟩

/-- A reader of tokens. -/
abbrev Reading := StateT Tokens Option

namespace Reading

variable {α : Type}

/-- The next token, if there is one. -/
def peek : Reading (Option Token) := do return (← get).rest.head?

/-- Whether the next token is a given one. -/
def sees (t : Token) : Reading Bool := do return (← peek) == some t

/-- Moves on by one token. -/
def skip : Reading Unit := modify fun ts => ⟨ts.rest.tail, ts.size - 1⟩

/-- Takes a given token if it is the next one. -/
def accept (t : Token) : Reading Bool := do
  if ← sees t then
    skip
    return true
  return false

/-- Takes a given token, which must be the next one. -/
def expect (t : Token) : Reading Unit := do
  unless ← accept t do failure

/-- Takes a name. -/
def name : Reading Bytes := do
  let some (.name n) ← peek | failure
  skip
  return n

/-- Takes a text literal. -/
def quoted : Reading Bytes := do
  let some (.text s) ← peek | failure
  skip
  return s

/-- Items, the latest in front, until a reader gives none; each must take a token. -/
def manyFrom (item : Reading (Option α)) : Nat → List α → Reading (List α)
  | 0, _ => failure
  | fuel + 1, found => do
    match ← item with
    | none => return found.reverse
    | some x => manyFrom item fuel (x :: found)

/-- Items until a reader gives none. -/
def many (item : Reading (Option α)) : Reading (List α) := do
  manyFrom item ((← get).size + 1) []

/-- Items up to a closing mark, with commas between them and perhaps one behind the last. -/
def separated (close : Token) (item : Reading α) : Reading (List α) := do
  if ← sees close then return []
  let first ← item
  let others ← many do
    unless ← accept (.symbol ",") do return none
    if ← sees close then return none
    return some (← item)
  return first :: others

end Reading

end Script

end TwoPass
