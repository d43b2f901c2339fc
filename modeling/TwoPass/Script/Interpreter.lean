import TwoPass.Script.Store

/-!
# Interpreters of scripts

Whoever needs the result of a script asks an interpreter for it.  All that is known of an
interpreter is what it takes and what it gives back: the messages that the script printed, and
the values of its variables at its end or the reason why there are none.
-/

namespace TwoPass

namespace Script

/-- How far a script without a result got: it could not be read, its names do not resolve, or it
    stopped while it ran. -/
inductive FailureKind where
  | unreadable
  | unresolved
  | stopped
  deriving DecidableEq, Repr

/-- Why a script has no result, in the words of the interpreter. -/
structure Failure where
  kind : FailureKind
  message : Bytes
  deriving DecidableEq, Repr

/-- What a script leaves behind: the messages it printed, and the store at its end with the
    cell of its variables. -/
structure Run where
  messages : List Bytes
  result : Except Failure (Store × Nat)

/-- An interpreter runs the source of a script, given names with values that the script knows
    beforehand. -/
abbrev Interpreter := List (Bytes × Value) → Bytes → Run

end Script

end TwoPass
