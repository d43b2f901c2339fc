import TwoPass.Script.Floating
import TwoPass.Text.Bytes

/-!
# Values of scripts

Lists, dictionaries and functions are given by the numbers of the cells that hold them, so
that two names can stand for the same one.  All other values are what they are.
-/

namespace TwoPass

namespace Script

/-- The functions that every script knows. -/
inductive Builtin where
  | abs
  | all
  | any
  | bool
  | bytes
  | chr
  | dict
  | dir
  | enumerate
  | fail
  | float
  | getattr
  | hasattr
  | hash
  | int
  | len
  | list
  | max
  | min
  | ord
  | print
  | range
  | repr
  | reversed
  | sorted
  | str
  | tuple
  | type
  | zip
  deriving DecidableEq, Repr

/-- A value.  Lists, dictionaries and functions are given by their cells. -/
inductive Value where
  | nothing
  | bool (value : Bool)
  | integer (value : Int)
  | real (value : Float)
  | text (value : Bytes)
  | data (value : Bytes)
  | range (start stop step : Int)
  | tuple (items : List Value)
  | list (cell : Nat)
  | dict (cell : Nat)
  | function (cell : Nat)
  | builtin (which : Builtin)
  deriving Inhabited

/-- A number as one of the machine's 32 bits, for counts and positions. -/
def small? : Value → Option Int
  | .integer n => if -0x80000000 ≤ n && n < 0x80000000 then some n else none
  | _ => none

/-- A whole number from a number: real numbers lose their fraction. -/
def wholeOf? : Value → Option Int
  | .integer n => some n
  | .real x => if Floating.isFinite x then some (Floating.truncate x) else none
  | _ => none

end Script

end TwoPass
