import TwoPass.Assembler
import TwoPass.Command.FileTree
import TwoPass.Command.Options
import TwoPass.Config.Load
import TwoPass.Locale.Environment
import TwoPass.Messages.Printer
import TwoPass.Symbols.Map

/-!
# The command — from arguments and files to files

A run has two halves.  The first checks the arguments, reads the configuration and the source,
and assembles; it changes nothing.  The second writes the image and then the symbol map.  As soon as
the file for the image has been opened, its removal is registered for the end of the run, and it
is carried out there unless the image has been written completely.
-/

namespace TwoPass

namespace Command

/-- Where a run takes place: the variables of its environment, whether its output goes to a
    terminal, who runs scripts, and what lies below the files that it writes.  The two standard
    streams take everything. -/
structure Host where
  environment : String → Bytes
  terminal : Bool
  interpret : Script.Interpreter
  devices : Path → Device

/-- What a run leaves behind: its exit status, what it wrote to its two streams, and the
    files. -/
structure Outcome where
  status : Nat
  output : Bytes
  errors : Bytes
  files : FileTree

/-- What the first half of a run gives. -/
structure Build where
  program : Program
  image : Bytes

/-- A step of the first half: it may say something, and it may be the last. -/
abbrev Step := OptionT (StateM Bytes)

/-- Says something. -/
def say (text : Bytes) : Step Unit := modify (· ++ text)

/-- A message as a line. -/
def line (text : Bytes) : Bytes := text ++ ['\n'.toUInt8]

/-- A message on a file as a line. -/
def about (file message : Bytes) : Bytes := line (file ++ Bytes.ofString ": " ++ message)

/-- Ends a run with a message. -/
def stop {α : Type} (text : Bytes) : Step α := do
  say text
  failure

/-- The output that stands for the standard stream. -/
def standardStream : Bytes := ['-'.toUInt8]

/-- How the command is used. -/
def usage : Bytes :=
  Bytes.ofString <| "usage: " ++ name ++
    " [-config file.star] [-map file.yaml] [-l] [-v] -o <output>.sse <input>.asm"

/-- The only input, if there are one and an output, and both have names of their kind.  An image
    is nothing for a terminal. -/
def checkNames (host : Host) (o : Options) : Step Bytes := do
  let [input] := o.operands | stop (line usage)
  if o.output = [] then stop (line usage)
  unless (Bytes.ofString ".asm").isSuffixOf input do
    stop (about input (Bytes.ofString "input filename must end in .asm"))
  unless o.output = standardStream || (Bytes.ofString ".sse").isSuffixOf o.output do
    stop (about o.output (Bytes.ofString "output filename must end in .sse"))
  if o.output = standardStream && host.terminal then
    stop (about (Bytes.ofString name)
      (Bytes.ofString "refusing to write binary output to a terminal"))
  return input

/-- The wording of a configuration that cannot be loaded. -/
def loadMessage (p : Printer) : Config.LoadFailure → Bytes
  | .script failure => failure.message
  | .fault f => f.message p

/-- The configuration asked for, if one is. -/
def configuration (host : Host) (p : Printer) (o : Options) (files : FileTree) :
    Step (Option Config) := do
  if o.config = [] then return none
  match files.read o.config with
  | .error f => stop (about o.config f.message)
  | .ok source =>
    let loaded := Config.load host.interpret source
    say (loaded.log o.config)
    match loaded.result with
    | .ok config => return some config
    | .error f => stop (about o.config (loadMessage p f))

/-- The wording of source that cannot be assembled. -/
def sourceMessage (p : Printer) : SourceFailure → Bytes
  | .lineTooLong => Bytes.ofString SourceFailure.tooLongMessage
  | .fault f => f.message p

/-- The program of the input. -/
def assembled (p : Printer) (o : Options) (config : Option Config) (input : Bytes)
    (files : FileTree) : Step Program := do
  match files.read input with
  | .error f => stop (about input f.message)
  | .ok source =>
    let run := (Assembler.mk o.verbose config none).runSource source
    say run.log
    match run.result with
    | .ok program => return program
    | .error f => stop (about input (sourceMessage p f))

/-- Says the listing, if it is asked for. -/
def sayListing (p : Printer) (o : Options) (input : Bytes) (program : Program) : Step Unit := do
  if o.listing then
    let (text, failure) := program.writeListing none
    say text
    if let some (.fault f) := failure then stop (about input (f.message p))

/-- The first half of a run. -/
def build (host : Host) (p : Printer) (o : Options) (files : FileTree) : Step Build := do
  let input ← checkNames host o
  let config ← configuration host p o files
  let program ← assembled p o config input files
  match program.image with
  | .error f => stop (about input (f.message p))
  | .ok image =>
    sayListing p o input program
    return ⟨program, image⟩

/-- What is told at the end of a run. -/
def summary (o : Options) (b : Build) : Bytes :=
  about o.output (Bytes.decimalNat b.image.length ++ Bytes.ofString " bytes, "
    ++ Bytes.decimalNat b.program.labels.size ++ Bytes.ofString " labels")

/-- The removal of an output that is registered for the end of a run, and whether the output is
    complete by then. -/
structure Removal where
  path : Bytes
  done : Bool

/-- How far a run has come: what it wrote to its two streams, the files, and the removal that it
    has registered. -/
structure Progress where
  output : Bytes
  errors : Bytes
  files : FileTree
  removal : Option Removal

namespace Progress

/-- A run on files that has only said something so far. -/
def start (errors : Bytes) (files : FileTree) : Progress := ⟨[], errors, files, none⟩

/-- Says something. -/
def tell (s : Progress) (text : Bytes) : Progress := { s with errors := s.errors ++ text }

/-- The end of a run.  What is registered is carried out. -/
def exit (s : Progress) (status : Nat) : Outcome where
  status := status
  output := s.output
  errors := s.errors
  files :=
    match s.removal with
    | some ⟨path, false⟩ => s.files.remove path
    | _ => s.files

end Progress

/-- Writes the image.  Once its file is open, the removal is registered; it is called off if
    nothing goes wrong behind that. -/
def writeOutput (host : Host) (o : Options) (image : Bytes) (s : Progress) :
    Option FileFailure × Progress :=
  if o.output = standardStream then (none, { s with output := s.output ++ image })
  else match s.files.create o.output with
    | .error f => (some f, s)
    | .ok (place, opened) =>
      let (failure, files) := opened.fill host.devices o.output place image
      (failure, { s with files, removal := some ⟨o.output, failure.isNone⟩ })

/-- Writes the symbol map, if it is asked for. -/
def writeMap (host : Host) (o : Options) (labels : LabelTable) (s : Progress) :
    Option FileFailure × Progress :=
  if o.symbols = [] then (none, s)
  else
    let (failure, files) := s.files.write host.devices o.symbols labels.symbolMap
    (failure, { s with files })

/-- The second half of a run. -/
def deliver (host : Host) (o : Options) (b : Build) (s : Progress) : Outcome :=
  match writeOutput host o b.image s with
  | (some f, s) => (s.tell (about o.output f.message)).exit 1
  | (none, s) =>
    match writeMap host o b.program.labels s with
    | (some f, s) => (s.tell (about o.symbols f.message)).exit 1
    | (none, s) => (s.tell (if o.verbose then summary o b else [])).exit 0

/-- Runs the command on arguments and files, in the language that the environment prefers. -/
def run (host : Host) (args : List Bytes) (files : FileTree) : Outcome :=
  let printer := Printer.ofLocales (Locale.preferred host.environment)
  match Options.parse args with
  | .error s => (Progress.start s.text files).exit s.status
  | .ok o =>
    match (build host printer o files).run.run [] with
    | (none, errors) => (Progress.start errors files).exit 1
    | (some b, errors) => deliver host o b (Progress.start errors files)

end Command

end TwoPass
