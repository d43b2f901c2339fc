import TwoPass.Script.Grammar.Reading
import TwoPass.Script.Tree

/-!
# The grammar of expressions

The readers of expressions are built on a reader for the expressions inside them; the knot
is tied with as much fuel as there are tokens, since every construct takes a token before
the next one inside it begins.
-/

namespace TwoPass

namespace Script

namespace Grammar

open Reading

-- ── Operators ────────────────────────────────────────────────────────────────

/-- The comparisons, none of which can follow another. -/
def comparisons : List (String × Binary) :=
  [ ("==", .equal), ("!=", .unequal), ("<", .less), (">", .greater), ("<=", .lessEqual),
    (">=", .greaterEqual), ("not in", .absent) ]

/-- The operators that group from the left, those that bind least in front. -/
def leftLevels : List (List (String × Binary)) :=
  [ [("|", .bitOr)], [("^", .bitXor)], [("&", .bitAnd)],
    [("<<", .shiftLeft), (">>", .shiftRight)], [("-", .minus), ("+", .plus)],
    [("*", .times), ("%", .modulo), ("/", .divide), ("//", .floorDivide)] ]

/-- The operators that combine the old value of a target with a new one. -/
def combinations : List (String × Option Binary) :=
  [ ("=", none), ("+=", some .plus), ("-=", some .minus), ("*=", some .times),
    ("/=", some .divide), ("//=", some .floorDivide), ("%=", some .modulo), ("&=", some .bitAnd),
    ("|=", some .bitOr), ("^=", some .bitXor), ("<<=", some .shiftLeft), (">>=", some .shiftRight) ]

/-- Takes a symbol of a table, if one is next. -/
def symbolOf {α : Type} (table : List (String × α)) : Reading (Option α) := do
  let some (.symbol s) ← peek | return none
  let some x := table.lookup s | return none
  skip
  return some x

/-- Takes a comparison, if one is next. -/
def comparison : Reading (Option Binary) := do
  if ← accept (.keyword "in") then return some .member
  symbolOf comparisons

/-- Operands of one level with its operators between them. -/
def leftLevel (ops : List (String × Binary)) (operand : Reading Expr) : Reading Expr := do
  let first ← operand
  let others ← many do
    match ← symbolOf ops with
    | none => return none
    | some op => return some (op, ← operand)
  return others.foldl (fun left (op, right) => .binary op left right) first

/-- At most one comparison of two operands. -/
def comparing (operand : Reading Expr) : Reading Expr := do
  let left ← operand
  match ← comparison with
  | none => return left
  | some op =>
    let right ← operand
    if (← comparison).isSome then failure
    return .binary op left right

/-- An operand behind any number of negations. -/
def negating (operand : Reading Expr) : Reading Expr := do
  let marks ← many do return if ← accept (.keyword "not") then some () else none
  let inner ← operand
  return marks.foldl (fun e _ => .unary .negation e) inner

/-- Operands with one word between them. -/
def wordLevel (word : String) (node : Expr → Expr → Expr) (operand : Reading Expr) :
    Reading Expr := do
  let first ← operand
  let others ← many do
    unless ← accept (.keyword word) do return none
    return some (← operand)
  return others.foldl node first

/-- An expression of operators, over its smallest operands. -/
def operators (operand : Reading Expr) : Reading Expr :=
  wordLevel "or" .either <| wordLevel "and" .both <| negating <| comparing <|
    leftLevels.foldr leftLevel operand

-- ── Expressions ──────────────────────────────────────────────────────────────

/-- The reader of the expressions inside another one.  It is told whether a conditional
    expression is allowed where it stands. -/
abbrev Inner := Bool → Reading Expr

/-- The tokens that a list of expressions can end with behind a comma. -/
def endsList : Option Token → Bool
  | none => true
  | some .newline => true
  | some (.symbol s) => ["=", "\x7d", "]", ")", ";"].contains s
  | _ => false

/-- Expressions behind the first one of a list. -/
def moreItems (item : Reading Expr) : Reading (List Expr) := many do
  unless ← accept (.symbol ",") do return none
  if endsList (← peek) then return none
  return some (← item)

/-- One expression, or several with commas between them.  Outside parentheses no comma may
    stand behind the last. -/
def expressions (grouped : Bool) (inner : Inner) : Reading Expr := do
  let first ← inner true
  unless ← sees (.symbol ",") do return first
  let others ← many do
    unless ← accept (.symbol ",") do return none
    if endsList (← peek) then
      if grouped then return none else failure
    return some (← inner true)
  return .tuple (first :: others)

/-- A parameter. -/
def param (inner : Inner) : Reading Param := do
  if ← accept (.symbol "*") then
    if let some (.name n) ← peek then
      skip
      return .rest (some n)
    return .rest none
  if ← accept (.symbol "**") then return .restNamed (← name)
  let n ← name
  if ← accept (.symbol "=") then return .optional n (← inner true)
  return .required n

/-- Parameters up to a closing mark. -/
def params (close : Token) (inner : Inner) : Reading (List Param) :=
  separated close (param inner)

/-- Parameters up to a colon, behind the last of which no comma may stand. -/
def lambdaParams (inner : Inner) : Reading (List Param) := do
  if ← sees (.symbol ":") then return []
  let first ← param inner
  let others ← many do
    unless ← accept (.symbol ",") do return none
    return some (← param inner)
  return first :: others

/-- An argument. -/
def arg (inner : Inner) : Reading Arg := do
  if ← accept (.symbol "*") then return .spread (← inner true)
  if ← accept (.symbol "**") then return .spreadNamed (← inner true)
  let value ← inner true
  unless ← accept (.symbol "=") do return .positional value
  let .name n := value | failure
  return .named n (← inner true)

/-- What stands between brackets behind a subject. -/
def subscript (subject : Expr) (inner : Inner) : Reading Expr := do
  let low ← if ← sees (.symbol ":") then pure none else some <$> expressions false inner
  if let some key := low then
    if ← accept (.symbol "]") then return .index subject key
  let high ←
    if ← accept (.symbol ":") then
      if (← sees (.symbol ":")) || (← sees (.symbol "]")) then pure none else some <$> inner true
    else pure none
  let step ←
    if ← accept (.symbol ":") then
      if ← sees (.symbol "]") then pure none else some <$> inner true
    else pure none
  expect (.symbol "]")
  return .slice subject low high step

/-- What can stand behind an operand, as a function of it. -/
def suffix (inner : Inner) (subject : Expr) : Reading (Option Expr) := do
  if ← accept (.symbol ".") then return some (.attribute subject (← name))
  if ← accept (.symbol "[") then return some (← subscript subject inner)
  if ← accept (.symbol "(") then
    let args ← separated (.symbol ")") (arg inner)
    expect (.symbol ")")
    return some (.call subject args)
  return none

/-- An operand with all that stands behind it. -/
def suffixesFrom (inner : Inner) : Nat → Expr → Reading Expr
  | 0, _ => failure
  | fuel + 1, subject => do
    match ← suffix inner subject with
    | none => return subject
    | some e => suffixesFrom inner fuel e

/-- The signs in front of an operand. -/
def signs : List (String × Unary) := [("-", .minus), ("+", .plus), ("~", .complement)]

/-- The targets of a loop. -/
def loopTargets (operand : Reading Expr) : Reading Expr := do
  let first ← operand
  unless ← sees (.symbol ",") do return first
  return .tuple (first :: (← moreItems operand))

/-- A loop of a comprehension, behind its first word. -/
def loopClause (operand : Reading Expr) : Reading (Expr × Expr) := do
  let target ← loopTargets operand
  expect (.keyword "in")
  return (target, ← operators operand)

/-- The clauses of a comprehension behind its first loop, up to its end. -/
def clauses (close : Token) (operand : Reading Expr) (inner : Inner) : Reading (List Clause) := do
  let found ← many do
    if ← accept (.keyword "for") then
      let (target, source) ← loopClause operand
      return some (.each target source)
    if ← accept (.keyword "if") then return some (.only (← inner false))
    return none
  expect close
  return found

/-- What follows an opening bracket. -/
def listBody (operand : Reading Expr) (inner : Inner) : Reading Expr := do
  let close : Token := .symbol "]"
  if ← accept close then return .list []
  let first ← inner true
  let number := (← get).size
  if ← accept (.keyword "for") then
    let (target, source) ← loopClause operand
    return .listFor number first target source (← clauses close operand inner)
  let others ← moreItems (inner true)
  expect close
  return .list (first :: others)

/-- A key and its value. -/
def dictItem (inner : Inner) : Reading (Expr × Expr) := do
  let key ← inner true
  expect (.symbol ":")
  return (key, ← inner true)

/-- What follows an opening brace. -/
def dictBody (operand : Reading Expr) (inner : Inner) : Reading Expr := do
  let close : Token := .symbol "\x7d"
  if ← accept close then return .dict []
  let first ← dictItem inner
  let number := (← get).size
  if ← accept (.keyword "for") then
    let (target, source) ← loopClause operand
    return .dictFor number first.1 first.2 target source (← clauses close operand inner)
  let others ← many do
    unless ← accept (.symbol ",") do return none
    if ← sees close then return none
    return some (← dictItem inner)
  expect close
  return .dict (first :: others)

/-- What follows an opening parenthesis. -/
def groupBody (inner : Inner) : Reading Expr := do
  if ← accept (.symbol ")") then return .tuple []
  let e ← expressions true inner
  expect (.symbol ")")
  return .grouped e

/-- The value of a literal token. -/
def literal? : Token → Option Literal
  | .integer n => some (.integer n)
  | .real digits exponent => some (.real digits exponent)
  | .text s => some (.text s)
  | .data s => some (.data s)
  | _ => none

/-- An operand with signs in front of it and subscripts, calls and attributes behind it.
    The operands of loops inside it are one level of nesting further down. -/
def operandWith (operand : Reading Expr) (inner : Inner) : Reading Expr := do
  let marks ← many (symbolOf signs)
  let some token ← peek | failure
  skip
  let first ←
    match token with
    | .name n => pure (.name n)
    | .symbol "[" => listBody operand inner
    | .symbol "\x7b" => dictBody operand inner
    | .symbol "(" => groupBody inner
    | other =>
      match literal? other with
      | some l => pure (.literal l)
      | none => failure
  let whole ← suffixesFrom inner ((← get).size + 1) first
  return marks.foldr .unary whole

/-- A function without a name, behind its first word. -/
def lambdaBody (conditional : Bool) (number : Nat) (inner : Inner) : Reading Expr := do
  let ps ← lambdaParams inner
  expect (.symbol ":")
  return .lambda number ps (← inner conditional)

/-- An expression that is no tuple. -/
def expressionWith (conditional : Bool) (operand : Reading Expr) (inner : Inner) :
    Reading Expr := do
  let number := (← get).size
  if ← accept (.keyword "lambda") then return ← lambdaBody conditional number inner
  let value ← operators operand
  unless conditional do return value
  unless ← accept (.keyword "if") do return value
  let condition ← operators operand
  expect (.keyword "else")
  return .choice condition value (← inner true)

mutual

/-- Operands nested up to a depth. -/
def operandAt : Nat → Reading Expr
  | 0 => fun _ => none
  | depth + 1 => fun ts => operandWith (operandAt depth) (expressionAt depth) ts

/-- Expressions nested up to a depth. -/
def expressionAt : Nat → Inner
  | 0 => fun _ _ => none
  | depth + 1 => fun conditional ts =>
    expressionWith conditional (operandAt depth) (expressionAt depth) ts

end

/-- The depth to which the tokens that are left can nest. -/
def depthLeft : Reading Nat := do return 2 * (← get).size + 2

/-- An operand. -/
def operand : Reading Expr := do operandAt (← depthLeft)

/-- An expression. -/
def expression : Reading Expr := do expressionAt (← depthLeft) true

/-- One or more expressions outside parentheses. -/
def expressionList : Reading Expr := do expressions false (expressionAt (← depthLeft))

end Grammar

end Script

end TwoPass
