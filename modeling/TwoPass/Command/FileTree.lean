import TwoPass.Text.Bytes

/-!
# File trees — the files a command can see

A file tree holds files and directories below a working directory.  Every directory on the
way to a file must exist; a directory can be opened for reading but not read, and not opened
for writing at all.  Names and paths have a largest length.

A file is written in two steps: opening it makes it empty, and then it is filled.  The second step
fails where the device below the file has no room for all the bytes, or cannot close it.
-/

namespace TwoPass

/-- The names on the way to a file or directory.  The working directory has none. -/
abbrev Path := List Bytes

/-- Files with their contents, and directories. -/
structure FileTree where
  files : List (Path × Bytes)
  directories : List Path
  deriving DecidableEq, Repr

/-- Why a file cannot be used. -/
inductive FileProblem where
  | missing
  | isDirectory
  | notDirectory
  | nameTooLong
  | noSpace
  | inputOutput
  deriving DecidableEq, Repr

/-- What was tried in vain on a file. -/
structure FileFailure where
  operation : String
  path : Bytes
  problem : FileProblem
  deriving DecidableEq, Repr

namespace FileProblem

/-- The wording of a problem. -/
def message : FileProblem → String
  | missing => "no such file or directory"
  | isDirectory => "is a directory"
  | notDirectory => "not a directory"
  | nameTooLong => "file name too long"
  | noSpace => "no space left on device"
  | inputOutput => "input/output error"

end FileProblem

/-- The wording of a failure. -/
def FileFailure.message (f : FileFailure) : Bytes :=
  Bytes.ofString f.operation ++ [' '.toUInt8] ++ f.path ++ Bytes.ofString ": "
    ++ Bytes.ofString f.problem.message

namespace Path

/-- The byte between the names of a path. -/
def slash : UInt8 := '/'.toUInt8

/-- The name of the root directory, which is not below any working directory. -/
def root : Bytes := [slash]

/-- The name of the directory above. -/
def parent : Bytes := Bytes.ofString ".."

/-- The names of a path as they are written, without those that lead nowhere.  A slash at the
    end leads to a directory, so an empty name stands for it. -/
def components (text : Bytes) : List Bytes :=
  let names := Bytes.splitOn slash text
  let start := if text.head? == some slash then [root] else []
  let isStep := fun (n : Bytes) => n != [] && n != Bytes.ofString "."
  let close := if names.getLast?.any isStep then [] else [[]]
  start ++ names.filter isStep ++ close

/-- The largest length of a name. -/
def nameLimit : Nat := 255

/-- The largest length of a path. -/
def lengthLimit : Nat := 4095

/-- The names that lead to the directory of a new file, if a path has slashes behind the name
    of the file. -/
def closedParent? (text : Bytes) : Option (List Bytes) :=
  let names := components text
  match names.reverse with
  | [] :: name :: above =>
    if text.getLast? == some slash && name != parent && name != root
        && (Bytes.splitOn slash text).reverse.find? (· != []) == some name then
      some (above.reverse ++ [[]])
    else none
  | _ => none

/-- The path behind one more name.  The directory above the root is the root, and the way out
    of the working directory is kept. -/
def step (here : Path) (name : Bytes) : Path :=
  if name = [] then here
  else if name = parent && here != [] && here.getLast? != some parent then
    if here = [root] then here else here.dropLast
  else here ++ [name]

/-- Every path on the way to a file, the file itself in front. -/
def visited (text : Bytes) : List Path :=
  (components text).foldl (fun seen name => step (seen.headD []) name :: seen) []

/-- A path as it is written. -/
def text (p : Path) : Bytes :=
  match p with
  | [] => Bytes.ofString "."
  | first :: rest =>
    if first = root then root ++ Bytes.join [slash] rest else Bytes.join [slash] p

end Path

/-- What lies below a file: room for so many bytes, or for any number of them, and whether the file
    can be closed behind them. -/
structure Device where
  room : Option Nat
  closes : Bool

namespace Device

/-- A device on which every write succeeds. -/
def endless : Device := ⟨none, true⟩

/-- The bytes that reach the file. -/
def taken (d : Device) (contents : Bytes) : Bytes :=
  match d.room with
  | none => contents
  | some n => contents.take n

/-- What goes wrong when a file is filled, and with which operation.  What does not fit fails to be
    written; then it does not matter any more how the file is closed. -/
def problem? (d : Device) (contents : Bytes) : Option (String × FileProblem) :=
  if d.room.any (· < contents.length) then some ("write", .noSpace)
  else if d.closes then none
  else some ("close", .inputOutput)

end Device

namespace FileTree

/-- The contents of a file, if it is one. -/
def file? (t : FileTree) (p : Path) : Option Bytes := t.files.lookup p

/-- Whether a path is that of a directory: the working directory, one that is listed, or one
    in which something is. -/
def isDirectory (t : FileTree) (p : Path) : Bool :=
  let holds := fun (q : Path) => p.isPrefixOf q && p != q
  p == [] || t.directories.contains p || t.directories.any holds || t.files.any fun f => holds f.1

/-- Follows names from a directory.  All but the last must lead to directories. -/
def walk (t : FileTree) : Path → List Bytes → Except FileProblem Path
  | here, [] => .ok here
  | here, name :: rest =>
    let next := here.step name
    if Path.nameLimit < name.length then .error .nameTooLong
    else if rest.isEmpty || t.isDirectory next then t.walk next rest
    else if (t.file? next).isSome then .error .notDirectory
    else .error .missing

/-- Where a path leads to. -/
def resolve (t : FileTree) (path : Bytes) : Except FileProblem Path :=
  if Path.lengthLimit < path.length then .error .nameTooLong
  else t.walk [] (Path.components path)

/-- Where a path leads to on which a file is to be written.  With slashes behind its name it
    would be a directory. -/
def resolveNew (t : FileTree) (path : Bytes) : Except FileProblem Path :=
  match Path.closedParent? path with
  | none => t.resolve path
  | some above =>
    if Path.lengthLimit < path.length then .error .nameTooLong
    else (t.walk [] above).bind fun _ => .error .isDirectory

/-- The contents of a file. -/
def read (t : FileTree) (path : Bytes) : Except FileFailure Bytes :=
  match t.resolve path with
  | .error problem => .error ⟨"open", path, problem⟩
  | .ok p =>
    match t.file? p with
    | some contents => .ok contents
    | none =>
      if t.isDirectory p then .error ⟨"read", path, .isDirectory⟩
      else .error ⟨"open", path, .missing⟩

/-- The tree with the contents of one file set. -/
def set (t : FileTree) (p : Path) (contents : Bytes) : FileTree :=
  if (t.file? p).isSome then
    { t with files := t.files.map fun f => if f.1 = p then (p, contents) else f }
  else { t with files := t.files ++ [(p, contents)] }

/-- Opens a file for writing: its place, and the tree with the file empty. -/
def create (t : FileTree) (path : Bytes) : Except FileFailure (Path × FileTree) :=
  match t.resolveNew path with
  | .error problem => .error ⟨"open", path, problem⟩
  | .ok p => if t.isDirectory p then .error ⟨"open", path, .isDirectory⟩ else .ok (p, t.set p [])

/-- Fills a file that was opened on a path: what goes wrong, and the tree with what has reached the
    file. -/
def fill (t : FileTree) (devices : Path → Device) (path : Bytes) (p : Path) (contents : Bytes) :
    Option FileFailure × FileTree :=
  ( ((devices p).problem? contents).map fun (operation, problem) => ⟨operation, path, problem⟩,
    t.set p ((devices p).taken contents) )

/-- Opens a file and fills it. -/
def write (t : FileTree) (devices : Path → Device) (path contents : Bytes) :
    Option FileFailure × FileTree :=
  match t.create path with
  | .error f => (some f, t)
  | .ok (p, opened) => opened.fill devices path p contents

/-- The tree without a file.  The directory that it was in stays. -/
def remove (t : FileTree) (path : Bytes) : FileTree :=
  match t.resolve path with
  | .error _ => t
  | .ok p =>
    if (t.file? p).isSome then
      { files := t.files.filter (·.1 != p), directories := p.dropLast :: t.directories }
    else t

/-- The files that are new in a later tree or have other contents there. -/
def changes (before after : FileTree) : List (Path × Bytes) :=
  after.files.filter fun f => before.file? f.1 != some f.2

end FileTree

end TwoPass
