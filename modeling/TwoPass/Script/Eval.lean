import TwoPass.Script.Builtin
import TwoPass.Script.Scope

/-!
# Running scripts

Expressions and statements run by recursion on their trees; only a call leaves the tree.
No function may be called while it is running, so calls nest no deeper than there are
functions in the script.
-/

namespace TwoPass

namespace Script

open Act

-- ── Names ────────────────────────────────────────────────────────────────────

/-- Where an expression runs: the blocks around it, the innermost in front, the names that
    every script knows, and how functions are called. -/
structure Context where
  scopes : List Scope
  known : Bytes → Option Value
  invoke : Value → Arguments → Act Value

namespace Context

/-- The innermost block that has a variable of a name. -/
def home? (c : Context) (s : Store) (name : Bytes) : Option Scope :=
  c.scopes.find? fun scope => s.declares scope name

/-- The value of a name.  A variable must have been assigned. -/
def lookup (c : Context) (name : Bytes) : Act Value := read fun s =>
  match c.home? s name with
  | some scope => s.valueOf? scope name
  | none => c.known name

/-- Assigns a variable. -/
def assign (c : Context) (name : Bytes) (value : Value) : Act Unit := do
  let scope ← read fun s => c.home? s name
  modify fun s => s.assign scope name value

/-- A function that starts to run inside the blocks around it. -/
def enter (c : Context) (names : List Bytes) : Act Context := do
  return { c with scopes := ⟨← newFrame names, 0⟩ :: c.scopes }

/-- A comprehension inside a running function, which keeps the variables of the
    comprehension from one time to the next. -/
def enterBlock (c : Context) (number : Nat) (names : List Bytes) : Act Context := do
  match c.scopes with
  | [] => failure
  | around :: _ =>
    let scope : Scope := ⟨around.frame, number⟩
    modify fun s => s.declare scope names
    return { c with scopes := scope :: c.scopes }

end Context

/-- Puts an item in front of the items of a list. -/
def push (cell : Nat) (item : Value) : Act Unit := do
  setItems cell (item :: (← get).items cell)

/-- The new value of a combined assignment.  Lists and dictionaries are changed in place. -/
def combine (op : Binary) (old new : Value) : Act Value := do
  match op, old, new with
  | .plus, .list r, _ =>
    match (← get).elements new with
    | some items =>
      setItems r ((← get).items r ++ items)
      return old
    | none => failure
  | .bitOr, .dict a, .dict b =>
    setDictionary a (← merge a b)
    return old
  | _, _, _ => op.apply old new

/-- The value of a literal. -/
def Literal.value : Literal → Value
  | .integer n => .integer n
  | .real digits exponent => .real (Floating.ofDecimal digits exponent)
  | .text s => .text s
  | .data s => .data s

/-- Arguments by name out of a dictionary whose keys are texts. -/
def namedFrom (v : Value) : Act (List (Bytes × Value)) := do
  let .dict r := v | failure
  ((← get).entries r).mapM fun
    | (.text name, value) => return (name, value)
    | _ => failure

-- ── Expressions ──────────────────────────────────────────────────────────────

mutual

/-- The value of an expression. -/
def Expr.eval (c : Context) : Expr → Act Value
  | .name n => c.lookup n
  | .literal l => return l.value
  | .grouped e => e.eval c
  | .tuple items => do return .tuple (← evalAll c items)
  | .list items => do newList (← evalAll c items)
  | .dict entries => do
    let cell ← allocate (.dict .empty 0)
    evalEntries c cell entries
    return .dict cell
  | .listFor number item target source clauses => do
    let v ← source.eval c
    let inside ← c.enterBlock number (target.boundNames ++ clauseNames clauses)
    let cell ← allocate (.list [] 0)
    through v fun items => items.each fun x => do
      target.store inside x
      evalClauses inside (do push cell (← item.eval inside)) clauses
    newList ((← get).items cell).reverse
  | .dictFor number key value target source clauses => do
    let v ← source.eval c
    let inside ← c.enterBlock number (target.boundNames ++ clauseNames clauses)
    let cell ← allocate (.dict .empty 0)
    through v fun items => items.each fun x => do
      target.store inside x
      evalClauses inside (do setKey cell (← key.eval inside) (← value.eval inside)) clauses
    return .dict cell
  | .unary op e => do op.apply (← e.eval c)
  | .binary op a b => do op.apply (← a.eval c) (← b.eval c)
  | .both a b => do
    let x ← a.eval c
    if (← get).truth x then b.eval c else return x
  | .either a b => do
    let x ← a.eval c
    if (← get).truth x then return x else b.eval c
  | .choice condition yes no => do
    let x ← condition.eval c
    if (← get).truth x then yes.eval c else no.eval c
  | .lambda number params body => do
    let formals ← evalParams c params
    return .function (← allocate
      (.closure ⟨number, Bytes.ofString "lambda", formals, .expression body, c.scopes⟩))
  | .call callee args => do
    let f ← callee.eval c
    c.invoke f (← evalArgs c ⟨[], []⟩ args)
  | .index subject key => do
    let x ← subject.eval c
    let k ← key.eval c
    read (·.itemAt k x)
  | .slice subject low high step => do
    let x ← subject.eval c
    let low ← evalMaybe c low
    let high ← evalMaybe c high
    sliceOf x low high (← evalMaybe c step)
  | .attribute subject _ => do
    let _ ← subject.eval c
    failure

/-- The value of an expression, if there is one. -/
def evalMaybe (c : Context) : Option Expr → Act (Option Value)
  | none => return none
  | some e => do return some (← e.eval c)

/-- The values of the expressions of a list, in order. -/
def evalAll (c : Context) : List Expr → Act (List Value)
  | [] => return []
  | e :: rest => do
    let v ← e.eval c
    return v :: (← evalAll c rest)

/-- Adds entries to a dictionary.  No key may come twice. -/
def evalEntries (c : Context) (cell : Nat) : List (Expr × Expr) → Act Unit
  | [] => return ()
  | (key, value) :: rest => do
    let k ← key.eval c
    let v ← value.eval c
    if ((← get).lookup cell k).isSome then failure
    setKey cell k v
    evalEntries c cell rest

/-- Runs an action for every way through the clauses of a comprehension. -/
def evalClauses (c : Context) (emit : Act Unit) : List Clause → Act Unit
  | [] => emit
  | .each target source :: rest => do
    let v ← source.eval c
    through v fun items => items.each fun x => do
      target.store c x
      evalClauses c emit rest
  | .only condition :: rest => do
    let x ← condition.eval c
    if (← get).truth x then evalClauses c emit rest

/-- The values of the arguments of a call behind those already found. -/
def evalArgs (c : Context) (found : Arguments) : List Arg → Act Arguments
  | [] => return found
  | .positional e :: rest => do
    let v ← e.eval c
    evalArgs c { found with positional := found.positional ++ [v] } rest
  | .named n e :: rest => do
    let v ← e.eval c
    evalArgs c { found with named := found.named ++ [(n, v)] } rest
  | .spread e :: rest => do
    let vs ← elements (← e.eval c)
    evalArgs c { found with positional := found.positional ++ vs } rest
  | .spreadNamed e :: rest => do
    let vs ← namedFrom (← e.eval c)
    evalArgs c { found with named := found.named ++ vs } rest

/-- The parameters of a function with the values of the optional ones. -/
def evalParams (c : Context) : List Param → Act (List Formal)
  | [] => return []
  | .required n :: rest => do return .required n :: (← evalParams c rest)
  | .optional n e :: rest => do
    let v ← e.eval c
    return .optional n v :: (← evalParams c rest)
  | .rest n :: rest => do return .rest n :: (← evalParams c rest)
  | .restNamed n :: rest => do return .restNamed n :: (← evalParams c rest)

/-- Assigns a value to a target. -/
def Expr.store (c : Context) (value : Value) : Expr → Act Unit
  | .name n => c.assign n value
  | .grouped e => e.store c value
  | .index subject key => do
    let x ← subject.eval c
    let k ← key.eval c
    setItem x k value
  | .tuple items => do
    storeAll c (← unpack items.length value) items
  | .list items => do
    storeAll c (← unpack items.length value) items
  | _ => failure

/-- Assigns values to targets, in order. -/
def storeAll (c : Context) (values : List Value) : List Expr → Act Unit
  | [] => return ()
  | e :: rest => do
    match values with
    | [] => return ()
    | v :: values =>
      e.store c v
      storeAll c values rest

end

/-- Combines the old value of a target with a new one, which is found behind it. -/
def Expr.combineWith (c : Context) (op : Binary) (new : Act Value) : Expr → Act Unit
  | .name n => do
    let old ← c.lookup n
    c.assign n (← combine op old (← new))
  | .index subject key => do
    let x ← subject.eval c
    let k ← key.eval c
    let old ← read (·.itemAt k x)
    setItem x k (← combine op old (← new))
  | .grouped e => e.combineWith c op new
  | _ => failure

-- ── Statements ───────────────────────────────────────────────────────────────

/-- How a block ends: behind its last statement, by leaving its loop or going on with it,
    or with a result. -/
inductive Ending where
  | finished
  | left
  | skipped
  | result (value : Value)

/-- How a loop ends behind a pass through its body, if it does. -/
def Ending.ofLoop? : Ending → Option Ending
  | .left => some .finished
  | .result v => some (.result v)
  | _ => none

/-- Goes on behind a statement that holds a block, unless that ended early. -/
def andThen (ending : Ending) (rest : Act Ending) : Act Ending :=
  match ending with
  | .finished => rest
  | _ => return ending

/-- Runs the statements of a block. -/
def execBlock (c : Context) : List Stmt → Act Ending
  | [] => return .finished
  | .expr e :: rest => do
    let _ ← e.eval c
    execBlock c rest
  | .assign none target value :: rest => do
    target.store c (← value.eval c)
    execBlock c rest
  | .assign (some op) target value :: rest => do
    target.combineWith c op (value.eval c)
    execBlock c rest
  | .define number name params body :: rest => do
    let formals ← evalParams c params
    let cell ← allocate
      (.closure ⟨number, name, formals, .statements (assigned body) body, c.scopes⟩)
    c.assign name (.function cell)
    execBlock c rest
  | .giveBack value :: _ => do return .result ((← evalMaybe c value).getD .nothing)
  | .leave :: _ => return .left
  | .next :: _ => return .skipped
  | .pass :: rest => execBlock c rest
  | .load _ :: _ => failure
  | .branch condition yes no :: rest => do
    let x ← condition.eval c
    let ending ← if (← get).truth x then execBlock c yes else execBlock c no
    andThen ending (execBlock c rest)
  | .each target source body :: rest => do
    let v ← source.eval c
    let ending ← through v fun items => items.first fun x => do
      target.store c x
      return (← execBlock c body).ofLoop?
    andThen (ending.getD .finished) (execBlock c rest)
  | .repeating _ _ :: _ => failure

-- ── Calls ────────────────────────────────────────────────────────────────────

/-- The name of a parameter that takes one argument, with its value if it is optional. -/
def Formal.slot? : Formal → Option (Bytes × Option Value)
  | .required n => some (n, none)
  | .optional n v => some (n, some v)
  | _ => none

/-- Whether a parameter can be given by position: those in front of a star. -/
def Formal.isPositional (f : Formal) : Bool := f.slot?.isSome

/-- The name of the parameter that takes the arguments left over by position. -/
def restName? (formals : List Formal) : Option Bytes :=
  formals.findSome? fun
    | .rest n => n
    | _ => none

/-- The name of the parameter that takes the arguments left over by name. -/
def restNamedName? (formals : List Formal) : Option Bytes :=
  formals.findSome? fun
    | .restNamed n => some n
    | _ => none

/-- The values of the parameters of a function. -/
def bindFormals (formals : List Formal) (a : Arguments) : Act (List (Bytes × Value)) := do
  let front := (formals.takeWhile Formal.isPositional).filterMap Formal.slot?
  let slots := formals.filterMap Formal.slot?
  let taken := a.positional.take front.length
  let surplus := a.positional.drop front.length
  let free := slots.drop taken.length
  let isFree := fun (n : Bytes) => free.any (·.1 = n)
  let extra := a.named.filter fun n => !isFree n.1
  unless surplus.isEmpty || (restName? formals).isSome do failure
  unless extra.isEmpty || (restNamedName? formals).isSome do failure
  unless allDistinct (a.named.map Prod.fst) do failure
  -- A parameter filled by position cannot be given by name as well.
  if extra.any fun n => (front.take taken.length).any (·.1 = n.1) then failure
  let filled ← free.mapM fun (n, default) => do
    return (n, ← lift ((a.named.lookup n).or default))
  let rest := match restName? formals with
    | some n => [(n, Value.tuple surplus)]
    | none => []
  let restNamed ← match restNamedName? formals with
    | some n => do
      let entries := extra.map fun (k, v) => (.text k, v)
      pure [(n, ← newDict (← lift (Dictionary.empty.insertAll? entries)))]
    | none => pure []
  return (front.map Prod.fst).zip taken ++ filled ++ rest ++ restNamed

/-- The variables that the body of a function has besides its parameters. -/
def Body.locals : Body → List Bytes
  | .expression _ => []
  | .statements locals _ => locals

/-- Runs the body of a function. -/
def Body.run (c : Context) : Body → Act Value
  | .expression e => e.eval c
  | .statements _ block => do
    match ← execBlock c block with
    | .result v => return v
    | _ => return .nothing

/-- Calls a function, given the functions that are running.  The first argument bounds how
    many more can be. -/
def invoke (known : Bytes → Option Value) : Nat → List Nat → Value → Arguments → Act Value
  | _, _, .builtin b, a => b.run a
  | depth + 1, running, .function cell, a => do
    let f ← read (·.closure? cell)
    if running.contains f.number then failure
    let bound ← bindFormals f.formals a
    let outside : Context := ⟨f.scopes, known, invoke known depth (f.number :: running)⟩
    let inside ← outside.enter (bound.map Prod.fst ++ f.body.locals)
    bound.forM fun (n, v) => inside.assign n v
    f.body.run inside
  | _, _, _, _ => failure

end Script

end TwoPass
