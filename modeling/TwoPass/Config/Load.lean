import TwoPass.Config.Settings
import TwoPass.Script.Interpreter

/-!
# Configuration scripts

A configuration is given by a script; the values of its variables at its end are the
settings.  The script knows the addresses that are used where it sets none.  Running it is the
matter of an interpreter.
-/

namespace TwoPass

namespace Setting

/-- The text of a value, if it is one. -/
def text? : Script.Value → Option Bytes
  | .text s => some s
  | _ => none

/-- The whole number of a value, if it is one. -/
def integer? : Script.Value → Option Int
  | .integer n => some n
  | _ => none

/-- A value of a script as a setting. -/
def ofValue (store : Script.Store) : Script.Value → Setting
  | .integer n => number n
  | .dict cell => table ((store.entries cell).map fun (key, value) => (text? key, integer? value))
  | _ => other

/-- The variables of a script as settings, those without a value left out. -/
def ofVariables (store : Script.Store) (cell : Nat) : List (Bytes × Setting) :=
  (store.slots cell).filterMap fun v =>
    if v.block = 0 then v.value.map fun value => (v.name, ofValue store value) else none

end Setting

namespace Config

/-- Why a script gives no configuration. -/
inductive LoadFailure where
  | script (failure : Script.Failure)
  | fault (f : Fault)
  deriving DecidableEq, Repr

/-- What loading a script gives: the messages that it printed, and the configuration. -/
structure Loaded where
  messages : List Bytes
  result : Except LoadFailure Config

/-- The names that a configuration script knows beforehand. -/
def predeclared : List (Bytes × Script.Value) :=
  [ (Bytes.ofString "DATA_BASE", .integer default.dataBase.toNat),
    (Bytes.ofString "CODE_BASE", .integer default.codeBase.toNat) ]

/-- The configuration that a script describes. -/
def load (interpret : Script.Interpreter) (source : Bytes) : Loaded :=
  let run := interpret predeclared source
  ⟨run.messages, match run.result with
    | .error failure => .error (.script failure)
    | .ok (store, cell) => (ofSettings (Setting.ofVariables store cell)).mapError .fault⟩

/-- A message of a script as a line of a log, under the name of the script. -/
def logLine (name message : Bytes) : Bytes :=
  let line := name ++ Bytes.ofString ": " ++ message
  if line.getLast? == some '\n'.toUInt8 then line else line ++ ['\n'.toUInt8]

/-- The messages of a script as a log. -/
def Loaded.log (l : Loaded) (name : Bytes) : Bytes := l.messages.flatMap (logLine name)

end Config

end TwoPass
