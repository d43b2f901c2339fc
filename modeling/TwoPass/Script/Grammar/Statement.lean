import TwoPass.Script.Grammar.Expression
import TwoPass.Script.Token.Scanner

/-!
# The grammar of statements

A statement with a block holds further statements, which come from a reader for those
inside; the number of tokens bounds how deep they can nest.
-/

namespace TwoPass

namespace Script

namespace Grammar

open Reading

/-- What a load takes: the name in the other script and the name it gets. -/
def loadName : Reading (Bytes × Bytes) := do
  if let some (.name n) ← peek then
    skip
    expect (.symbol "=")
    return (← quoted, n)
  let n ← quoted
  return (n, n)

/-- A load behind its first word.  It must take a name. -/
def loadStmt : Reading Stmt := do
  expect (.symbol "(")
  let _ ← quoted
  let names ← many do
    unless ← accept (.symbol ",") do return none
    if ← sees (.symbol ")") then return none
    return some (← loadName)
  expect (.symbol ")")
  if names.isEmpty then failure
  return .load names

/-- A statement without a block. -/
def smallStmt : Reading Stmt := do
  if ← accept (.keyword "return") then
    match ← peek with
    | none => return .giveBack none
    | some .newline => return .giveBack none
    | some (.symbol ";") => return .giveBack none
    | _ => return .giveBack (some (← expressionList))
  if ← accept (.keyword "break") then return .leave
  if ← accept (.keyword "continue") then return .next
  if ← accept (.keyword "pass") then return .pass
  if ← accept (.keyword "load") then return ← loadStmt
  let target ← expressionList
  match ← symbolOf combinations with
  | none => return .expr target
  | some combine => return .assign combine target (← expressionList)

/-- The statements of a line. -/
def lineStmts : Reading (List Stmt) := do
  let first ← smallStmt
  let others ← many do
    unless ← accept (.symbol ";") do return none
    let next ← peek
    if next.isNone || next == some .newline then return none
    return some (← smallStmt)
  unless (← peek).isNone do expect .newline
  return first :: others

/-- The statements of a block behind its colon: the rest of the line, or indented lines. -/
def suite (statement : Reading (List Stmt)) : Reading (List Stmt) := do
  unless ← accept .newline do return ← lineStmts
  expect .indent
  let found ← many do
    let next ← peek
    if next.isNone || next == some .outdent then return none
    return some (← statement)
  expect .outdent
  return found.flatten

/-- A block behind its colon. -/
def block (statement : Reading (List Stmt)) : Reading (List Stmt) := do
  expect (.symbol ":")
  suite statement

/-- A choice between blocks, behind its first word. -/
def branchStmt (statement : Reading (List Stmt)) : Reading Stmt := do
  let condition ← expression
  let yes ← block statement
  let others ← many do
    unless ← accept (.keyword "elif") do return none
    let condition ← expression
    return some (condition, ← block statement)
  let no ← if ← accept (.keyword "else") then block statement else pure []
  return .branch condition yes
    (others.foldr (fun (condition, yes) no => [.branch condition yes no]) no)

/-- A function with a name, behind its first word. -/
def defineStmt (number : Nat) (statement : Reading (List Stmt)) : Reading Stmt := do
  let n ← name
  expect (.symbol "(")
  let ps ← params (.symbol ")") (expressionAt (← depthLeft))
  expect (.symbol ")")
  return .define number n ps (← block statement)

/-- The statements that start at the next token: one with a block, or those of a line. -/
def statementWith (statement : Reading (List Stmt)) : Reading (List Stmt) := do
  let number := (← get).size
  if ← accept (.keyword "def") then return [← defineStmt number statement]
  if ← accept (.keyword "if") then return [← branchStmt statement]
  if ← accept (.keyword "for") then
    let target ← loopTargets operand
    expect (.keyword "in")
    let source ← expressionList
    return [.each target source (← block statement)]
  if ← accept (.keyword "while") then
    let condition ← expression
    return [.repeating condition (← block statement)]
  lineStmts

/-- Statements nested up to a depth. -/
def statementAt : Nat → Reading (List Stmt)
  | 0 => fun _ => none
  | depth + 1 => fun ts => statementWith (statementAt depth) ts

/-- The statements of a script. -/
def script : Reading (List Stmt) := do
  let depth := (← get).size + 1
  let found ← many do
    if ← accept .newline then return some []
    if (← peek).isNone then return none
    return some (← statementAt depth)
  return found.flatten

/-- The statements of a script; `none` if it cannot be read. -/
def parse (source : Bytes) : Option (List Stmt) := do
  let tokens ← Scanner.scan source
  let (statements, _) ← script (.ofList tokens)
  return statements

end Grammar

end Script

end TwoPass
