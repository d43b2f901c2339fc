import TwoPass.Script.Eval
import TwoPass.Script.Grammar.Statement
import TwoPass.Script.Interpreter

/-!
# Scripts from source to result

A script that cannot be read, or whose names do not resolve, does not run at all.  One that
runs prints messages, and ends with the values of its variables or with a failure.
-/

namespace TwoPass

namespace Script

/-- The wording of a failure. -/
def FailureKind.message : FailureKind → String
  | unreadable => "script cannot be read"
  | unresolved => "script has unresolved names"
  | stopped => "script failed"

/-- The failure of a kind. -/
def Failure.ofKind (kind : FailureKind) : Failure := ⟨kind, Bytes.ofString kind.message⟩

open Act in
/-- Runs statements whose names resolve.  The limit bounds how deep calls can nest. -/
def execute (known : Bytes → Option Value) (limit : Nat) (statements : List Stmt) : Run :=
  let action : Act Nat := do
    let cell ← newFrame (assigned statements ++ loaded statements)
    let _ ← execBlock ⟨[⟨cell, 0⟩], known, invoke known limit []⟩ statements
    return cell
  let (result, store) := action.run.run .empty
  ⟨store.printed.reverse, match result with
    | some cell => .ok (store, cell)
    | none => .error (.ofKind .stopped)⟩

/-- The interpreter of the scripts that this library understands.  A script has fewer functions
    than bytes. -/
def run : Interpreter := fun predeclared source =>
  let known := fun n => (predeclared ++ commonNames).lookup n
  match Grammar.parse source with
  | none => ⟨[], .error (.ofKind .unreadable)⟩
  | some statements =>
    if resolves (fun n => (known n).isSome) statements then execute known source.length statements
    else ⟨[], .error (.ofKind .unresolved)⟩

end Script

end TwoPass
