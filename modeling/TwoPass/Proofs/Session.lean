import Mathlib.Data.List.Induction
import TwoPass.Proofs.Failure
import TwoPass.Session

/-!
# Sessions — what an assembler keeps from one request to the next

Only two things are kept that a later request can notice: the configuration and the label table.
A request that gives a configuration replaces it (`Request.config?`), and one that starts the
first pass replaces the table (`Request.texts?`); the others leave them alone.  So behind any list of
requests the configuration is the last one given (`config_after`), and the table is that of the
last first pass, under the configuration that was in force when it ran (`labels_after`).  Replies
depend on the configuration alone (`result_serve`).
-/

namespace TwoPass

namespace Request

/-- The lines that a request starts the first pass on.  Source with a line that is too long is
    not looked at. -/
def texts? : Request → Option (List Bytes)
  | assemble texts => some texts
  | parse source => source.lines?
  | _ => none

/-- The configuration, or the lack of one, that a request puts in force, if an interpreter runs
    its script. -/
def config? (interpret : Script.Interpreter) : Request → Option (Option Config)
  | configure config => some config
  | load _ script => (Config.load interpret script).result.toOption.map some
  | _ => none

/-- The configuration in force behind requests: the last one that they give, or else the one
    before them. -/
def inForce (interpret : Script.Interpreter) (config : Option Config) (requests : List Request) :
    Option Config :=
  (requests.filterMap (config? interpret)).getLast?.getD config

/-- One more request replaces the configuration if it gives one. -/
theorem inForce_concat (interpret : Script.Interpreter) (config : Option Config)
    (requests : List Request) (r : Request) :
    inForce interpret config (requests ++ [r]) =
      (r.config? interpret).getD (inForce interpret config requests) := by
  rw [inForce, List.filterMap_append]
  cases h : r.config? interpret with
  | none => simp [inForce, h]
  | some given => simp [h]

end Request

namespace Assembler

open Request

variable (interpret : Script.Interpreter)

/-! ## One request -/

/-- Assembling gives the program of the lines, whatever the assembler did before. -/
theorem result_run (a : Assembler) (texts : List Bytes) :
    (a.run texts).result = TwoPass.assemble a.settings texts := by
  rw [run, TwoPass.assemble]
  cases Layout.resolve a.settings (SourceLine.ofTexts texts) with
  | error f => rfl
  | ok labels => rfl

/-- What is kept of it is the table of the first pass, if there is one. -/
theorem assembler_run (a : Assembler) (texts : List Bytes) :
    (a.run texts).assembler =
      { a with labels := (Layout.resolve a.settings (SourceLine.ofTexts texts)).toOption } := by
  rw [run]
  cases Layout.resolve a.settings (SourceLine.ofTexts texts) with
  | error f => rfl
  | ok labels => rfl

/-- Source text is assembled as its lines. -/
theorem result_runSource (a : Assembler) (source : Bytes) :
    (a.runSource source).result =
      match source.lines? with
      | none => .error .lineTooLong
      | some texts => (TwoPass.assemble a.settings texts).mapError .fault := by
  rw [runSource]
  cases source.lines? with
  | none => rfl
  | some texts => exact congrArg (Except.mapError SourceFailure.fault) (result_run a texts)

/-- Text that is not looked at changes nothing. -/
theorem assembler_runSource (a : Assembler) (source : Bytes) :
    (a.runSource source).assembler =
      source.lines?.elim a fun texts => (a.run texts).assembler := by
  rw [runSource]
  cases source.lines? <;> rfl

/-- A request replaces the label table exactly if it starts the first pass. -/
theorem labels_serve (a : Assembler) (r : Request) :
    (a.serve interpret r).assembler.labels =
      r.texts?.elim a.labels fun texts =>
        (Layout.resolve a.settings (SourceLine.ofTexts texts)).toOption := by
  cases r with
  | assemble texts =>
      show (a.run texts).assembler.labels = _
      rw [assembler_run]
      rfl
  | parse source =>
      show (a.runSource source).assembler.labels = _
      rw [assembler_runSource, texts?]
      cases source.lines? with
      | none => rfl
      | some texts =>
          show (a.run texts).assembler.labels = _
          rw [assembler_run]
          rfl
  | configure config => rfl
  | load name script => rfl
  | tell verbose => rfl

/-- A request replaces the configuration exactly if it gives one. -/
theorem config_serve (a : Assembler) (r : Request) :
    (a.serve interpret r).assembler.config = (r.config? interpret).getD a.config := by
  cases r with
  | assemble texts =>
      show (a.run texts).assembler.config = _
      rw [assembler_run]
      rfl
  -- whether or not the source has lines, the configuration stays
  | parse source =>
      show (a.runSource source).assembler.config = _
      rw [assembler_runSource]
      cases source.lines? with
      | none => rfl
      | some texts =>
          show (a.run texts).assembler.config = _
          rw [assembler_run]
          rfl
  | configure config => rfl
  | load name script =>
      show (Config.load interpret script).result.toOption.or a.config =
        ((Config.load interpret script).result.toOption.map some).getD a.config
      cases (Config.load interpret script).result.toOption <;> rfl
  | tell verbose => rfl

/-- Two assemblers under one configuration give the same reply. -/
theorem result_serve {a b : Assembler} (h : a.config = b.config) (r : Request) :
    (a.serve interpret r).result = (b.serve interpret r).result := by
  have hsettings : a.settings = b.settings := congrArg (·.getD Config.default) h
  cases r with
  | assemble texts =>
      show Reply.program ((a.run texts).result.mapError .fault) =
        .program ((b.run texts).result.mapError .fault)
      rw [result_run, result_run, hsettings]
  | parse source =>
      show Reply.program (a.runSource source).result = .program (b.runSource source).result
      rw [result_runSource, result_runSource, hsettings]
  | configure config => rfl
  | load name script => rfl
  | tell verbose => rfl

/-! ## Any number of requests -/

/-- Requests are served one behind the other. -/
theorem after_append (a : Assembler) (before behind : List Request) :
    a.after interpret (before ++ behind) = (a.after interpret before).after interpret behind :=
  List.foldl_append

theorem after_concat (a : Assembler) (requests : List Request) (r : Request) :
    a.after interpret (requests ++ [r]) =
      ((a.after interpret requests).serve interpret r).assembler :=
  after_append interpret a requests [r]

/-- The outcome of a request is that of the assembler behind the requests before it. -/
theorem getElem?_serveAll (a : Assembler) (before : List Request) (r : Request)
    (behind : List Request) :
    (a.serveAll interpret (before ++ r :: behind))[before.length]? =
      some ((a.after interpret before).serve interpret r) := by
  induction before generalizing a with
  | nil => rfl
  | cons first before ih => exact ih (a.serve interpret first).assembler

/-- The configuration is the last one given. -/
theorem config_after (a : Assembler) (requests : List Request) :
    (a.after interpret requests).config = inForce interpret a.config requests := by
  induction requests using List.reverseRecOn with
  | nil => rfl
  | append_singleton requests r ih => rw [after_concat, config_serve, ih, inForce_concat]

/-- Requests that do not start the first pass keep the label table. -/
theorem labels_after_of_none (a : Assembler) {requests : List Request}
    (h : ∀ r ∈ requests, r.texts? = none) : (a.after interpret requests).labels = a.labels := by
  induction requests using List.reverseRecOn with
  | nil => rfl
  | append_singleton requests r ih =>
      have hlast : r.texts? = none := h r (by simp)
      rw [after_concat, labels_serve, hlast]
      exact ih fun r' hr' => h r' (List.mem_append_left _ hr')

/-- The label table is that of the last first pass, under the configuration of its time. -/
theorem labels_after (a : Assembler) (before : List Request) {r : Request} {texts : List Bytes}
    (hr : r.texts? = some texts) {behind : List Request} (h : ∀ r' ∈ behind, r'.texts? = none) :
    (a.after interpret (before ++ r :: behind)).labels =
      (Layout.resolve ((inForce interpret a.config before).getD .default)
        (SourceLine.ofTexts texts)).toOption := by
  rw [List.append_cons, after_append, labels_after_of_none interpret _ h, after_concat,
    labels_serve, hr, ← config_after]
  rfl

/-- **WHAT A SESSION REMEMBERS.**  Let scripts be run by any interpreter, and take any request of a
    session that starts with a new assembler.  Behind it, the configuration is the last one that
    was given.  There is no label table if no request so far has started the first pass; otherwise
    the table is the one that the first pass gave for the last lines it was started on, under the
    configuration in force then, and there is none if it failed, whatever became of the second
    pass.  Source with a line that is too long changes nothing, and a script without a
    configuration leaves the old one in force.  The reply is the one that a new assembler gives
    under the configuration in force. -/
theorem session_remembers (interpret : Script.Interpreter) (verbose : Bool)
    (config : Option Config) (before : List Request) (request : Request) (behind : List Request) :
    ∃ o, (serveAll interpret ⟨verbose, config, none⟩
        (before ++ request :: behind))[before.length]? = some o ∧
      o.assembler.config = inForce interpret config (before ++ [request]) ∧
      ((∀ r ∈ before ++ [request], r.texts? = none) → o.assembler.labels = none) ∧
      (∀ earlier r later texts, before ++ [request] = earlier ++ r :: later →
        r.texts? = some texts → (∀ r' ∈ later, r'.texts? = none) →
        o.assembler.labels =
          (Layout.resolve ((inForce interpret config earlier).getD .default)
            (SourceLine.ofTexts texts)).toOption) ∧
      (∀ source, request = .parse source → source.lines? = none →
        o.result = .program (.error .lineTooLong) ∧
        o.assembler = after interpret ⟨verbose, config, none⟩ before) ∧
      (∀ name script failure, request = .load name script →
        (Config.load interpret script).result = .error failure →
        o.assembler.config = inForce interpret config before) ∧
      o.result = (serve interpret ⟨false, inForce interpret config before, none⟩ request).result := by
  -- the assembler behind the request is the one behind all requests up to it
  have hconcat := after_concat interpret ⟨verbose, config, none⟩ before request
  refine ⟨_, getElem?_serveAll interpret _ before request behind, ?_, ?_, ?_, ?_, ?_, ?_⟩
  · rw [← hconcat, config_after]
  · intro hnone
    rw [← hconcat, labels_after_of_none interpret _ hnone]
  · intro earlier r later texts hcut hr hlater
    rw [← hconcat, hcut, labels_after interpret _ earlier hr hlater]
  · rintro source rfl hlong
    constructor
    · show Reply.program (runSource _ source).result = _
      rw [result_runSource, hlong]
    · show (runSource _ source).assembler = _
      rw [assembler_runSource, hlong]
      rfl
  · rintro name script failure rfl hfailure
    rw [config_serve, config_after, config?, hfailure]
    rfl
  · exact result_serve interpret (config_after interpret _ before) request

/-- Lines for the first pass to accept and the second to refuse. -/
def danglingSource : List Bytes := ["b: .byte 1", "  c: .word @d"].map Bytes.ofString

/-- Their labels under a configuration that was given behind other lines. -/
def danglingTable : LabelTable :=
  ⟨[⟨Bytes.ofString "c", ⟨0x101, .data⟩⟩, ⟨Bytes.ofString "b", ⟨0x100, .data⟩⟩]⟩

/-- A script that sets one of the addresses. -/
def baseScript : Bytes := Bytes.ofString "data_base = 256"

/-- An interpreter for this one script. -/
def baseInterpreter : Script.Interpreter := fun _ source =>
  ⟨[], if source = baseScript then
      .ok (⟨#[.frame [⟨0, Bytes.ofString "data_base", some (.integer 256)⟩]], []⟩, 0)
    else .error ⟨.stopped, Bytes.ofString "unknown script"⟩⟩

/-- Requests for a table, for the configuration of the script, and for one that there is not. -/
def danglingRequests : List Request :=
  [.assemble [Bytes.ofString "a: .byte 1"], .load (Bytes.ofString "a.star") baseScript,
    .load (Bytes.ofString "b.star") (Bytes.ofString "fail()")]

/-- The table is that of lines that were refused, under the one configuration that was loaded. -/
theorem session_remembers_danglingSource :
    ∃ o, (serveAll baseInterpreter ⟨false, none, none⟩
        (danglingRequests ++ .assemble danglingSource :: [.tell true]))[3]? = some o ∧
      o.assembler.config = some ⟨0x100, 0x5800, none⟩ ∧ o.assembler.labels = some danglingTable := by
  obtain ⟨o, ho, hconfig, -, hlabels, -⟩ := session_remembers baseInterpreter false none
    danglingRequests (.assemble danglingSource) [.tell true]
  have hforce : inForce baseInterpreter none danglingRequests = some ⟨0x100, 0x5800, none⟩ := by
    decide +kernel
  have htable : Layout.resolve ⟨0x100, 0x5800, none⟩ (SourceLine.ofTexts danglingSource) =
      .ok danglingTable := by decide +kernel
  refine ⟨o, ho, ?_, ?_⟩
  · rw [hconfig, inForce_concat, hforce]
    rfl
  · rw [hlabels danglingRequests (.assemble danglingSource) [] danglingSource rfl rfl
      (fun _ hr => absurd hr List.not_mem_nil), hforce]
    exact congrArg Except.toOption htable

end Assembler

end TwoPass
