import TwoPass.Text.Quoted

/-!
# Options of the command line

Options stand in front of everything else and start with one dash or two.  A switch is on
when it is named, or has a truth value behind an equals sign; any other option has a value,
behind an equals sign or as the next argument.  The last of several values counts.
-/

namespace TwoPass

/-- What the arguments of a command ask for. -/
structure Options where
  output : Bytes
  config : Bytes
  symbols : Bytes
  listing : Bool
  verbose : Bool
  operands : List Bytes
  deriving DecidableEq, Repr

/-- Why arguments are not accepted. -/
inductive OptionFault where
  | malformed (argument : Bytes)
  | unknown (name : Bytes)
  | needsValue (name : Bytes)
  | notTruth (value name : Bytes)
  deriving DecidableEq, Repr

/-- Why the arguments are not followed: they ask for help, or they are not accepted. -/
inductive OptionStop where
  | help
  | fault (f : OptionFault)
  deriving DecidableEq, Repr

/-- How an option sets what was asked for. -/
inductive Setter where
  | switch (set : Options → Bool → Options)
  | value (set : Options → Bytes → Options)

/-- What an argument is. -/
inductive OptionForm where
  | operand
  | terminator
  | malformed
  | named (name : Bytes) (value : Option Bytes)
  deriving DecidableEq, Repr

namespace Options

/-- What is in effect before any argument. -/
def initial : Options := ⟨[], [], [], false, false, []⟩

/-- The options by name. -/
def table : List (Bytes × Setter) :=
  [ (Bytes.ofString "config", .value fun o v => { o with config := v }),
    (Bytes.ofString "l", .switch fun o b => { o with listing := b }),
    (Bytes.ofString "map", .value fun o v => { o with symbols := v }),
    (Bytes.ofString "o", .value fun o v => { o with output := v }),
    (Bytes.ofString "v", .switch fun o b => { o with verbose := b }) ]

/-- The spellings of truth values. -/
def truths : List (Bytes × Bool) :=
  (["1", "t", "T", "true", "TRUE", "True"].map fun s => (Bytes.ofString s, true))
    ++ ["0", "f", "F", "false", "FALSE", "False"].map fun s => (Bytes.ofString s, false)

/-- The names that ask for help. -/
def helpNames : List Bytes := [Bytes.ofString "help", Bytes.ofString "h"]

/-- The byte that options start with. -/
def dash : UInt8 := '-'.toUInt8

/-- The byte in front of a value. -/
def equals : UInt8 := '='.toUInt8

/-- The form of what stands behind the dashes of an argument. -/
def formOfName : Bytes → OptionForm
  | [] => .malformed
  | b :: rest =>
    if b == dash || b == equals then .malformed
    else match Bytes.splitAt? equals rest with
      | some (name, value) => .named (b :: name) (some value)
      | none => .named (b :: rest) none

/-- The form of an argument. -/
def formOf : Bytes → OptionForm
  | a :: b :: rest =>
    if a != dash then .operand
    else if b != dash then formOfName (b :: rest)
    else if rest = [] then .terminator
    else formOfName rest
  | _ => .operand

/-- Follows arguments, given what those in front of them asked for. -/
def follow : Options → List Bytes → Except OptionStop Options
  | o, [] => .ok o
  | o, s :: rest =>
    match formOf s with
    | .operand => .ok { o with operands := s :: rest }
    | .terminator => .ok { o with operands := rest }
    | .malformed => .error (.fault (.malformed s))
    | .named name value =>
      match table.lookup name, value with
      | none, _ => .error (if helpNames.contains name then .help else .fault (.unknown name))
      | some (.switch set), none => follow (set o true) rest
      | some (.switch set), some v =>
        match truths.lookup v with
        | some b => follow (set o b) rest
        | none => .error (.fault (.notTruth v name))
      | some (.value set), some v => follow (set o v) rest
      | some (.value set), none =>
        match rest with
        | [] => .error (.fault (.needsValue name))
        | v :: rest => follow (set o v) rest

/-- What arguments ask for. -/
def parse (args : List Bytes) : Except OptionStop Options := follow initial args

end Options

-- ── Wording ──────────────────────────────────────────────────────────────────

/-- The name of the command. -/
def Command.name : String := "sim6asm"

/-- The wording of a fault. -/
def OptionFault.message : OptionFault → Bytes
  | malformed argument => Bytes.ofString "bad flag syntax: " ++ argument
  | unknown name => Bytes.ofString "flag provided but not defined: -" ++ name
  | needsValue name => Bytes.ofString "flag needs an argument: -" ++ name
  | notTruth value name =>
    Bytes.ofString "invalid boolean value " ++ Quoted.quote value ++ Bytes.ofString " for -" ++ name
      ++ Bytes.ofString ": parse error"

/-- The help on options. -/
def Options.help : Bytes :=
  Bytes.ofString <|
    "Usage of " ++ Command.name ++ ":\n" ++
    "  -config string\n    \tStarlark configuration file\n" ++
    "  -l\tWrite a listing to stderr\n" ++
    "  -map string\n    \tYAML symbol map to write\n" ++
    "  -o string\n    \t.sse file to write, or - for stdout\n" ++
    "  -v\tVerbose mode\n"

namespace OptionStop

/-- What is said when the arguments are not followed. -/
def text : OptionStop → Bytes
  | help => Options.help
  | fault f => f.message ++ ['\n'.toUInt8] ++ Options.help

/-- The exit status when the arguments are not followed. -/
def status : OptionStop → Nat
  | help => 0
  | fault _ => 2

end OptionStop

end TwoPass
