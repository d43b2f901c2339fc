import TwoPass.Text.Bytes

/-!
# Locales of the environment

The preferred locales come from variables of the environment.  One variable overrides all
others, and its value is taken as it is.
-/

namespace TwoPass

namespace Locale

/-- The variable that overrides all others. -/
def overrideVariable : String := "SIM6_LANG"

/-- The variables of the locale categories, the strongest in front. -/
def categoryVariables : List String := ["LC_ALL", "LC_MESSAGES", "LANG"]

/-- The variable that lists languages. -/
def languagesVariable : String := "LANGUAGE"

/-- All variables that are looked at. -/
def consulted : List String := overrideVariable :: languagesVariable :: categoryVariables

/-- A locale name of the environment as a language tag: without its character set, and
    with a hyphen behind the language. -/
def ofEnvironmentName (name : Bytes) : Bytes :=
  let base := (name.takeWhile (· != '.'.toUInt8)).map fun b =>
    if b == '-'.toUInt8 then '_'.toUInt8 else b
  match Bytes.splitAt? '_'.toUInt8 base with
  | none => base
  | some (language, []) => language
  | some (language, rest) => language ++ '-'.toUInt8 :: rest

/-- Whether a value asks for no locale at all. -/
def isNeutral (value : Bytes) : Bool :=
  value = [] || value = Bytes.ofString "C" || value = Bytes.ofString "POSIX"

/-- The preferred locales of an environment, most preferred first: the override, or else
    the category variables, which a language list replaces unless they ask for none. -/
def preferred (lookup : String → Bytes) : List Bytes :=
  let override := lookup overrideVariable
  if override ≠ [] then [override]
  else
    let category := ((categoryVariables.map lookup).find? (· ≠ [])).getD []
    let languages := lookup languagesVariable
    let names :=
      if languages ≠ [] && (category = [] || !isNeutral category) then languages else category
    if isNeutral names then [] else (Bytes.splitOn ':'.toUInt8 names).map ofEnvironmentName

end Locale

end TwoPass
