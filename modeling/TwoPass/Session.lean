import TwoPass.Assembler
import TwoPass.Config.Load

/-!
# Sessions — one assembler and a list of requests

An assembler serves one request after another: it assembles lines or source text, takes up
another configuration or none, loads one from a script, or is told whether to say what it does.
Scripts are run by whatever interpreter the session is given.
Each request is answered, and what it leaves behind is what the next one finds.
-/

namespace TwoPass

/-- What an assembler can be asked for. -/
inductive Request where
  | assemble (texts : List Bytes)
  | parse (source : Bytes)
  | configure (config : Option Config)
  | load (name script : Bytes)
  | tell (verbose : Bool)
  deriving DecidableEq, Repr

/-- How a request is answered. -/
inductive Reply where
  | program (result : Except SourceFailure Program)
  | config (result : Except Config.LoadFailure Config)
  | done

namespace Assembler

/-- Takes up the configuration of a script.  A script without one leaves the old one. -/
def load (interpret : Script.Interpreter) (a : Assembler) (name script : Bytes) :
    Outcome (Except Config.LoadFailure Config) :=
  let loaded := Config.load interpret script
  ⟨loaded.result, { a with config := loaded.result.toOption.or a.config }, loaded.log name⟩

/-- Serves one request. -/
def serve (interpret : Script.Interpreter) (a : Assembler) : Request → Outcome Reply
  | .assemble texts =>
    let outcome := a.run texts
    ⟨.program (outcome.result.mapError .fault), outcome.assembler, outcome.log⟩
  | .parse source =>
    let outcome := a.runSource source
    ⟨.program outcome.result, outcome.assembler, outcome.log⟩
  | .configure config => ⟨.done, { a with config }, []⟩
  | .load name script =>
    let outcome := a.load interpret name script
    ⟨.config outcome.result, outcome.assembler, outcome.log⟩
  | .tell verbose => ⟨.done, { a with verbose }, []⟩

/-- The outcomes of a list of requests, one by one. -/
def serveAll (interpret : Script.Interpreter) :
    Assembler → List Request → List (Outcome Reply)
  | _, [] => []
  | a, r :: rest =>
    let outcome := a.serve interpret r
    outcome :: serveAll interpret outcome.assembler rest

/-- The assembler behind a list of requests. -/
def after (interpret : Script.Interpreter) (a : Assembler) (requests : List Request) : Assembler :=
  requests.foldl (fun a r => (a.serve interpret r).assembler) a

end Assembler

end TwoPass
