import TwoPass.Script.Tree

/-!
# Scope — what a script may say before it runs

A name means the innermost function parameter, assigned variable or comprehension variable
that has it, wherever in its block that is assigned; then a variable of the script, wherever
in the script that is assigned; then a name that every script knows.  A script with any
other name is refused as a whole, and so is one that assigns a variable of its own twice,
branches or loops outside functions, or assigns to something that is no target.
-/

namespace TwoPass

namespace Script

-- ── Targets ──────────────────────────────────────────────────────────────────

mutual

/-- Whether an expression can be assigned to. -/
def Expr.isTarget : Expr → Bool
  | .name _ => true
  | .index _ _ => true
  | .attribute _ _ => true
  | .grouped e => e.isTarget
  | .tuple items => areTargets items
  | .list items => areTargets items
  | _ => false

/-- Whether all expressions of a list can be assigned to. -/
def areTargets : List Expr → Bool
  | [] => true
  | e :: rest => e.isTarget && areTargets rest

end

mutual

/-- The names that an assignment to an expression binds, in order. -/
def Expr.boundNames : Expr → List Bytes
  | .name n => [n]
  | .grouped e => e.boundNames
  | .tuple items => boundByAll items
  | .list items => boundByAll items
  | _ => []

/-- The names that assignments to the expressions of a list bind. -/
def boundByAll : List Expr → List Bytes
  | [] => []
  | e :: rest => e.boundNames ++ boundByAll rest

end

/-- Whether an expression has one old value that can be combined with a new one. -/
def Expr.isSingle : Expr → Bool
  | .grouped e => e.isSingle
  | .tuple _ => false
  | .list _ => false
  | _ => true

/-- The names that the clauses of a comprehension bind. -/
def clauseNames : List Clause → List Bytes
  | [] => []
  | .each target _ :: rest => target.boundNames ++ clauseNames rest
  | .only _ :: rest => clauseNames rest

-- ── Parameters and arguments ─────────────────────────────────────────────────

/-- The name of a parameter, if it has one. -/
def Param.name? : Param → Option Bytes
  | .required n => some n
  | .optional n _ => some n
  | .rest n => n
  | .restNamed n => some n

/-- What was seen of a list of parameters. -/
structure ParamsSeen where
  optional : Bool
  rest : Bool
  bareRest : Bool
  restNamed : Bool
  deriving DecidableEq, Repr

/-- Whether parameters stand in order: required ones, optional ones, at most one star with
    parameters of either kind behind it, and at most one double star at the end.  A bare
    star needs a parameter behind it. -/
def paramsInOrder : ParamsSeen → List Param → Bool
  | seen, [] => !seen.bareRest
  | seen, .required _ :: rest =>
    !seen.restNamed && (seen.rest || !seen.optional)
      && paramsInOrder { seen with bareRest := false } rest
  | seen, .optional _ _ :: rest =>
    !seen.restNamed && paramsInOrder { seen with optional := true, bareRest := false } rest
  | seen, .rest n :: rest =>
    !seen.restNamed && !seen.rest
      && paramsInOrder { seen with rest := true, bareRest := n.isNone } rest
  | seen, .restNamed _ :: rest =>
    !seen.restNamed && paramsInOrder { seen with restNamed := true } rest

/-- Whether a list of parameters can be used. -/
def paramsValid (ps : List Param) : Bool :=
  paramsInOrder ⟨false, false, false, false⟩ ps && allDistinct (ps.filterMap Param.name?)

/-- What was seen of a list of arguments. -/
structure ArgsSeen where
  named : List Bytes
  spread : Bool
  spreadNamed : Bool
  deriving DecidableEq, Repr

/-- Whether arguments stand in order: by position, by name with no name twice, at most one
    star, at most one double star. -/
def argsInOrder : ArgsSeen → List Arg → Bool
  | _, [] => true
  | seen, .positional _ :: rest =>
    seen.named.isEmpty && !seen.spread && !seen.spreadNamed && argsInOrder seen rest
  | seen, .named n _ :: rest =>
    !seen.spread && !seen.spreadNamed && !seen.named.contains n &&
      argsInOrder { seen with named := n :: seen.named } rest
  | seen, .spread _ :: rest =>
    !seen.spread && !seen.spreadNamed && argsInOrder { seen with spread := true } rest
  | seen, .spreadNamed _ :: rest =>
    !seen.spreadNamed && argsInOrder { seen with spreadNamed := true } rest

/-- Whether a list of arguments can be passed.  There is room for 255 of each sort. -/
def argsValid (args : List Arg) : Bool :=
  let positional := args.countP fun
    | .positional _ => true
    | _ => false
  let named := args.countP fun
    | .named _ _ => true
    | _ => false
  argsInOrder ⟨[], false, false⟩ args && positional < 256 && named < 256

-- ── Expressions ──────────────────────────────────────────────────────────────

/-- A set of names with some more. -/
def extend (known : Bytes → Bool) (names : List Bytes) : Bytes → Bool :=
  fun n => names.contains n || known n

mutual

/-- Whether every name of an expression is known where it stands. -/
def Expr.resolves (known : Bytes → Bool) : Expr → Bool
  | .name n => known n
  | .literal _ => true
  | .grouped e => e.resolves known
  | .tuple items => allResolve known items
  | .list items => allResolve known items
  | .dict entries => entriesResolve known entries
  | .listFor _ item target source clauses =>
    let inside := extend known (target.boundNames ++ clauseNames clauses)
    source.resolves known && target.isTarget && target.resolves inside
      && clausesResolve inside clauses && item.resolves inside
  | .dictFor _ key value target source clauses =>
    let inside := extend known (target.boundNames ++ clauseNames clauses)
    source.resolves known && target.isTarget && target.resolves inside
      && clausesResolve inside clauses && key.resolves inside && value.resolves inside
  | .unary _ e => e.resolves known
  | .binary _ a b => a.resolves known && b.resolves known
  | .both a b => a.resolves known && b.resolves known
  | .either a b => a.resolves known && b.resolves known
  | .choice c a b => c.resolves known && a.resolves known && b.resolves known
  | .lambda _ ps body =>
    paramsValid ps && defaultsResolve known ps
      && body.resolves (extend known (ps.filterMap Param.name?))
  | .call callee args => callee.resolves known && argsValid args && argsResolve known args
  | .index a b => a.resolves known && b.resolves known
  | .slice a low high step =>
    a.resolves known && maybeResolves known low && maybeResolves known high
      && maybeResolves known step
  | .attribute a _ => a.resolves known

/-- Whether an expression, if there is one, resolves. -/
def maybeResolves (known : Bytes → Bool) : Option Expr → Bool
  | none => true
  | some e => e.resolves known

/-- Whether all expressions of a list resolve. -/
def allResolve (known : Bytes → Bool) : List Expr → Bool
  | [] => true
  | e :: rest => e.resolves known && allResolve known rest

/-- Whether all keys and values resolve. -/
def entriesResolve (known : Bytes → Bool) : List (Expr × Expr) → Bool
  | [] => true
  | (key, value) :: rest => key.resolves known && value.resolves known && entriesResolve known rest

/-- Whether all clauses resolve, with the names of all of them known. -/
def clausesResolve (known : Bytes → Bool) : List Clause → Bool
  | [] => true
  | .each target source :: rest =>
    target.isTarget && target.resolves known && source.resolves known && clausesResolve known rest
  | .only condition :: rest => condition.resolves known && clausesResolve known rest

/-- Whether all arguments resolve. -/
def argsResolve (known : Bytes → Bool) : List Arg → Bool
  | [] => true
  | .positional e :: rest => e.resolves known && argsResolve known rest
  | .named _ e :: rest => e.resolves known && argsResolve known rest
  | .spread e :: rest => e.resolves known && argsResolve known rest
  | .spreadNamed e :: rest => e.resolves known && argsResolve known rest

/-- Whether the values of all optional parameters resolve. -/
def defaultsResolve (known : Bytes → Bool) : List Param → Bool
  | [] => true
  | .optional _ e :: rest => e.resolves known && defaultsResolve known rest
  | _ :: rest => defaultsResolve known rest

end

-- ── Statements ───────────────────────────────────────────────────────────────

/-- The variables that the statements of a block assign, those of functions inside left
    out. -/
def assigned : List Stmt → List Bytes
  | [] => []
  | .assign _ target _ :: rest => target.boundNames ++ assigned rest
  | .define _ n _ _ :: rest => n :: assigned rest
  | .branch _ yes no :: rest => assigned yes ++ assigned no ++ assigned rest
  | .each target _ body :: rest => target.boundNames ++ assigned body ++ assigned rest
  | .repeating _ body :: rest => assigned body ++ assigned rest
  | _ :: rest => assigned rest

/-- The names that the statements of a block load. -/
def loaded : List Stmt → List Bytes
  | [] => []
  | .load names :: rest => names.map Prod.snd ++ loaded rest
  | _ :: rest => loaded rest

/-- Whether a block stands in a function, and whether it stands in a loop. -/
structure Place where
  inFunction : Bool
  inLoop : Bool
  deriving DecidableEq, Repr

/-- Names that another script gives away. -/
def isExported : Bytes → Bool
  | [] => false
  | b :: _ => b != '_'.toUInt8

/-- Whether all names of a block are known, and its statements stand where they may. -/
def blockResolves (known : Bytes → Bool) (place : Place) : List Stmt → Bool
  | [] => true
  | .expr e :: rest => e.resolves known && blockResolves known place rest
  | .assign combine target value :: rest =>
    value.resolves known && target.isTarget && target.resolves known
      && (combine.isNone || target.isSingle) && blockResolves known place rest
  | .define _ _ ps body :: rest =>
    let inside := extend known (ps.filterMap Param.name? ++ assigned body)
    paramsValid ps && defaultsResolve known ps && blockResolves inside ⟨true, false⟩ body
      && blockResolves known place rest
  | .giveBack value :: rest =>
    place.inFunction && maybeResolves known value && blockResolves known place rest
  | .leave :: rest => place.inLoop && blockResolves known place rest
  | .next :: rest => place.inLoop && blockResolves known place rest
  | .pass :: rest => blockResolves known place rest
  | .load names :: rest =>
    !place.inFunction && names.all (fun n => isExported n.1) && blockResolves known place rest
  | .branch condition yes no :: rest =>
    place.inFunction && condition.resolves known && blockResolves known place yes
      && blockResolves known place no && blockResolves known place rest
  | .each target source body :: rest =>
    place.inFunction && source.resolves known && target.isTarget && target.resolves known
      && blockResolves known { place with inLoop := true } body && blockResolves known place rest
  | .repeating _ _ :: _ => false

/-- Whether no variable of a script is assigned twice or behind a load of its name, and no
    name is loaded twice. -/
def boundOnce : List Bytes → List Bytes → List Stmt → Bool
  | _, _, [] => true
  | own, loads, .load names :: rest =>
    let new := names.map Prod.snd
    allDistinct new && new.all (fun n => !loads.contains n) && boundOnce own (new ++ loads) rest
  | own, loads, s :: rest =>
    let new := assigned [s]
    allDistinct new && new.all (fun n => !loads.contains n && !own.contains n)
      && boundOnce (new ++ own) loads rest

/-- Whether a script can run, given the names that every script knows. -/
def resolves (known : Bytes → Bool) (script : List Stmt) : Bool :=
  boundOnce [] [] script
    && blockResolves (extend known (assigned script ++ loaded script)) ⟨false, false⟩ script

end Script

end TwoPass
