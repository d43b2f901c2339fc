import TwoPass.Text.Bytes

/-!
# Script trees — expressions and statements

The tree of a script has one node for each construct of the language.  Targets of
assignments are expressions too; which expressions may stand there is a matter of scope,
not of grammar.  Each function and each comprehension carries a number that tells it from
every other one of the script.
-/

namespace TwoPass

namespace Script

/-- A literal value.  A real number is a whole number times a power of ten. -/
inductive Literal where
  | integer (value : Nat)
  | real (digits : Nat) (exponent : Int)
  | text (value : Bytes)
  | data (value : Bytes)
  deriving DecidableEq, Repr

/-- The operators with one operand. -/
inductive Unary where
  | plus
  | minus
  | complement
  | negation
  deriving DecidableEq, Repr

/-- The operators that always need both operands. -/
inductive Binary where
  | equal
  | unequal
  | less
  | greater
  | lessEqual
  | greaterEqual
  | member
  | absent
  | bitOr
  | bitXor
  | bitAnd
  | shiftLeft
  | shiftRight
  | minus
  | plus
  | times
  | modulo
  | divide
  | floorDivide
  deriving DecidableEq, Repr

mutual

/-- An expression. -/
inductive Expr where
  | name (name : Bytes)
  | literal (value : Literal)
  | grouped (inner : Expr)
  | tuple (items : List Expr)
  | list (items : List Expr)
  | dict (entries : List (Expr × Expr))
  | listFor (number : Nat) (item : Expr) (target source : Expr) (clauses : List Clause)
  | dictFor (number : Nat) (key value : Expr) (target source : Expr) (clauses : List Clause)
  | unary (op : Unary) (operand : Expr)
  | binary (op : Binary) (left right : Expr)
  | both (left right : Expr)
  | either (left right : Expr)
  | choice (condition yes no : Expr)
  | lambda (number : Nat) (params : List Param) (body : Expr)
  | call (callee : Expr) (args : List Arg)
  | index (subject key : Expr)
  | slice (subject : Expr) (low high step : Option Expr)
  | attribute (subject : Expr) (name : Bytes)

/-- A clause of a comprehension behind its first loop. -/
inductive Clause where
  | each (target source : Expr)
  | only (condition : Expr)

/-- An argument of a call. -/
inductive Arg where
  | positional (value : Expr)
  | named (name : Bytes) (value : Expr)
  | spread (values : Expr)
  | spreadNamed (values : Expr)

/-- A parameter of a function.  A bare star has no name. -/
inductive Param where
  | required (name : Bytes)
  | optional (name : Bytes) (value : Expr)
  | rest (name : Option Bytes)
  | restNamed (name : Bytes)

end

/-- A statement.  An assignment may combine the old value with the new one. -/
inductive Stmt where
  | expr (value : Expr)
  | assign (combine : Option Binary) (target value : Expr)
  | define (number : Nat) (name : Bytes) (params : List Param) (body : List Stmt)
  | giveBack (value : Option Expr)
  | leave
  | next
  | pass
  | load (names : List (Bytes × Bytes))
  | branch (condition : Expr) (yes no : List Stmt)
  | each (target source : Expr) (body : List Stmt)
  | repeating (condition : Expr) (body : List Stmt)

/-- Whether all elements of a list differ. -/
def allDistinct : List Bytes → Bool
  | [] => true
  | n :: rest => !rest.contains n && allDistinct rest

end Script

end TwoPass
