import TwoPass.Command.Run
import TwoPass.Script.Run

/-!
# The assembler as a program

Everything that the command needs to know of the file system is looked up before it runs, and
what it changed is written back behind it.
-/

namespace TwoPass

namespace Command

/-- A text as a string; paths and variables come from strings, so nothing is lost. -/
def asString (s : Bytes) : String := (String.fromUTF8? ⟨s.toArray⟩).getD ""

/-- Adds what stands at a path to a file tree. -/
def look (tree : FileTree) (path : Path) : IO FileTree := do
  try
    let place ← IO.FS.realPath (asString path.text)
    if ← place.isDir then return { tree with directories := path :: tree.directories }
    return tree.set path (← IO.FS.readBinFile place).data.toList
  catch _ => return tree

/-- The part of the file system that options are about. -/
def surroundings (args : List Bytes) : IO FileTree := do
  match Options.parse args with
  | .error _ => return ⟨[], []⟩
  | .ok o =>
    let paths := (o.output :: o.config :: o.symbols :: o.operands).flatMap Path.visited
    paths.eraseDups.foldlM look ⟨[], []⟩

/-- The variables of the environment that are looked at. -/
def environment : IO (String → Bytes) := do
  let values ← Locale.consulted.mapM fun name => do
    return (name, Bytes.ofString ((← IO.getEnv name).getD ""))
  return fun name => (values.lookup name).getD []

/-- Writes files one by one, up to the first that cannot be written. -/
def store : List (Path × Bytes) → IO (Option Path)
  | [] => return none
  | (path, contents) :: rest => do
    try
      IO.FS.writeBinFile (asString path.text) ⟨contents.toArray⟩
    catch _ => return some path
    store rest

/-- What a run changed, the output in front. -/
def changed (args : List Bytes) (before after : FileTree) : List (Path × Bytes) :=
  let isOutput := fun (f : Path × Bytes) =>
    (Options.parse args).toOption.any fun o => (before.resolveNew o.output).toOption == some f.1
  let (output, others) := (before.changes after).partition isOutput
  output ++ others

/-- Runs the command in the file system.  How much room there is shows when the files are written:
    if one of them cannot be, it is taken to have none, and that is how the run ends. -/
def perform (args : List Bytes) : IO UInt32 := do
  let before ← surroundings args
  let host : Host :=
    { environment := ← environment, terminal := ← (← IO.getStdout).isTty,
      interpret := Script.run, devices := fun _ => .endless }
  let hoped := run host args before
  let outcome ← match ← store (changed args before hoped.files) with
    | none => pure hoped
    | some full =>
      let outcome := run { host with devices := fun p => ⟨if p = full then some 0 else none, true⟩ }
        args before
      if (outcome.files.file? full).isNone then
        try IO.FS.removeFile (asString full.text) catch _ => pure ()
      pure outcome
  (← IO.getStderr).write ⟨outcome.errors.toArray⟩
  (← IO.getStdout).write ⟨outcome.output.toArray⟩
  return outcome.status.toUInt32

end Command

end TwoPass

/-- Assembles the file that the arguments name. -/
def main (args : List String) : IO UInt32 :=
  TwoPass.Command.perform (args.map TwoPass.Bytes.ofString)
