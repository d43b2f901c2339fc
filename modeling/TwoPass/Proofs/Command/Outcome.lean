import TwoPass.Command.Run
import TwoPass.Proofs.Command.Files
import TwoPass.Proofs.Program.Outputs
import TwoPass.Proofs.Session

/-!
# What a run of the command leaves behind

The first half of a run only reads.  Whether it gets to its end does not depend on what was said on
the way (`Meets`), and it does exactly if the names, the configuration and the source are in order
(`build_meets`).  The second half writes the image and then the symbol map.  If the image has been
written completely, its removal is called off, and the file stays whatever becomes of the symbol map
(`writeOutput_of_takes`, `deliver_of_complete`); otherwise the file is removed when the run ends
(`deliver_of_not_takes`).
-/

namespace TwoPass

namespace Command

/-! ## Steps -/

section Steps

variable {α β : Type} {x : Step α} {f : α → Step β} {P Q : α → Prop}

/-- A step gives a value exactly if the value has a property, whatever has been said before.  If
    no value has it, the step is the last. -/
def Meets (x : Step α) (P : α → Prop) : Prop :=
  ∀ said a, (x.run.run said).1 = some a ↔ P a

/-- The property may be replaced by another that says the same. -/
theorem Meets.congr (h : Meets x P) (hPQ : ∀ a, P a ↔ Q a) : Meets x Q :=
  fun said a => (h said a).trans (hPQ a)

theorem meets_pure (a : α) : Meets (pure a) (a = ·) :=
  fun _ _ => Option.some_inj

theorem meets_stop (text : Bytes) : Meets (stop text : Step α) fun _ => False := by
  intro said a
  constructor
  · intro h
    cases h
  · exact False.elim

theorem run_bind_of_some {said told : Bytes} {a : α} (h : x.run.run said = (some a, told)) :
    (x >>= f).run.run said = (f a).run.run told := by
  rw [OptionT.run_bind, Option.elimM, StateT.run_bind, h]
  rfl

theorem run_bind_of_none {said told : Bytes} (h : x.run.run said = (none, told)) :
    (x >>= f).run.run said = (none, told) := by
  rw [OptionT.run_bind, Option.elimM, StateT.run_bind, h]
  rfl

/-- Two steps give what the second gives for a value of the first. -/
theorem Meets.bind {R : α → β → Prop} (hx : Meets x P) (hf : ∀ a, P a → Meets (f a) (R a)) :
    Meets (x >>= f) fun b => ∃ a, P a ∧ R a b := by
  intro said b
  -- what the first step says goes on into the second, so both are run from any text
  cases hrun : x.run.run said with
  | mk given told =>
    have hgiven : ∀ a, given = some a ↔ P a := by
      intro a
      rw [← hx said a, hrun]
    cases given with
    | none =>
      rw [run_bind_of_none hrun]
      constructor
      · intro h
        cases h
      · rintro ⟨a, ha, -⟩
        cases (hgiven a).mpr ha
    | some a =>
      have ha : P a := (hgiven a).mp rfl
      rw [run_bind_of_some hrun, hf a ha told b]
      constructor
      · intro hb
        exact ⟨a, ha, hb⟩
      · rintro ⟨a', ha', hb⟩
        cases (hgiven a').mpr ha'
        exact hb

/-- Saying something does not change what is given. -/
theorem Meets.say (text : Bytes) (hx : Meets x P) : Meets (do Command.say text; x) P :=
  fun said => hx (said ++ text)

theorem meets_stop_bind (text : Bytes) (f : α → Step β) :
    Meets (stop text >>= f) fun _ => False := by
  refine ((meets_stop text).bind (R := fun _ _ => True) fun _ => False.elim).congr fun b => ?_
  constructor
  · rintro ⟨_, hfalse, -⟩
    exact hfalse
  · exact False.elim

/-- A check, with a message if it is not passed. -/
theorem Meets.check {γ : Type} {c : Prop} [Decidable c] (text : Bytes) (g : γ → Step α)
    (hx : Meets x P) : Meets (if c then x else stop text >>= g) fun a => c ∧ P a := by
  split
  · rename_i hc
    exact hx.congr fun a => (and_iff_right hc).symm
  · rename_i hc
    exact (meets_stop_bind text g).congr fun a => (iff_false_intro fun h => hc h.1).symm

/-- A check the other way round: the message is for those that pass it. -/
theorem Meets.refuse {γ : Type} {c : Prop} [Decidable c] (text : Bytes) (g : γ → Step α)
    (hx : Meets x P) : Meets (if c then stop text >>= g else x) fun a => ¬c ∧ P a := by
  rw [← ite_not]
  exact hx.check text g

/-- A step that goes on with a result, and is the last if there is none. -/
theorem Meets.take {ε γ : Type} {R : γ → α → Prop} (r : Except ε γ)
    (herror : ∀ e, r = .error e → Meets x fun _ => False) (hok : ∀ c, r = .ok c → Meets x (R c)) :
    Meets x fun a => ∃ c, r = .ok c ∧ R c a := by
  cases r with
  | error e =>
    refine (herror e rfl).congr fun a => (iff_false_intro ?_).symm
    rintro ⟨c, hc, -⟩
    cases hc
  | ok c =>
    refine (hok c rfl).congr fun a => ?_
    constructor
    · intro ha
      exact ⟨c, rfl, ha⟩
    · rintro ⟨c', hc, ha⟩
      cases hc
      exact ha

end Steps

/-! ## The first half -/

section Building

variable (host : Host)

/-- Options with one input and an output, each named for what it is.  Where the output is the
    standard stream, it does not go to a terminal. -/
structure Names (o : Options) (input : Bytes) : Prop where
  operands : o.operands = [input]
  output : o.output ≠ []
  source : Bytes.ofString ".asm" <:+ input
  image : o.output = standardStream ∨ Bytes.ofString ".sse" <:+ o.output
  stream : o.output = standardStream → host.terminal = false

/-- The configuration that options ask for: none, or the one that a script gives. -/
inductive Configures (o : Options) (files : FileTree) : Option Config → Prop
  | default (hnone : o.config = []) : Configures o files none
  | script {source : Bytes} {config : Config} (hsome : o.config ≠ [])
      (hread : files.read o.config = .ok source)
      (hload : (Config.load host.interpret source).result = .ok config) :
      Configures o files (some config)

/-- The program that options ask for. -/
def Assembles (o : Options) (files : FileTree) (p : Program) : Prop :=
  ∃ input source config, Names host o input ∧ Configures host o files config ∧
    files.read input = .ok source ∧
    ({ Assembler.new with config }.runSource source).result = .ok p

/-- The names are accepted exactly if they are in order. -/
theorem checkNames_meets (o : Options) : Meets (checkNames host o) (Names host o) := by
  rw [checkNames]
  split
  · rename_i input hoperands
    -- the four checks in their order, and the one operand behind them
    refine (Meets.refuse _ _ (.check _ _ (.check _ _ (.refuse _ _ (meets_pure input))))).congr
      fun a => ?_
    have hstream : ¬(decide (o.output = standardStream) && host.terminal) = true ↔
        (o.output = standardStream → host.terminal = false) := by
      rw [Bool.and_eq_true, decide_eq_true_iff, not_and, Bool.not_eq_true]
    rw [List.isSuffixOf_iff_suffix, Bool.or_eq_true, decide_eq_true_iff,
      List.isSuffixOf_iff_suffix, hstream]
    constructor
    · rintro ⟨houtput, hsource, himage, hstream, rfl⟩
      exact ⟨hoperands, houtput, hsource, himage, hstream⟩
    · rintro ⟨hoperands', houtput, hsource, himage, hstream⟩
      cases hoperands.symm.trans hoperands'
      exact ⟨houtput, hsource, himage, hstream, rfl⟩
  · rename_i hoperands
    exact (meets_stop _).congr fun a => (iff_false_intro fun h => hoperands a h.operands).symm

/-- A configuration is found exactly if options ask for none or its script gives one. -/
theorem configuration_meets (printer : Printer) (o : Options) (files : FileTree) :
    Meets (configuration host printer o files) (Configures host o files) := by
  rw [configuration]
  split
  · -- no script is asked for
    rename_i hnone
    refine (meets_pure _).congr fun config => ?_
    constructor
    · rintro rfl
      exact .default hnone
    · rintro (_ | ⟨hsome, -, -⟩)
      · rfl
      · exact absurd hnone hsome
  · -- the script has to be read first, and then to give a configuration
    rename_i hsome
    refine Meets.congr (P := fun config => ∃ source, files.read o.config = .ok source ∧
      ∃ loaded, (Config.load host.interpret source).result = .ok loaded ∧ some loaded = config) ?_
      fun config => ?_
    · refine Meets.take _ ?_ ?_
      · intro failure hread
        rw [hread]
        exact meets_stop _
      · intro source hread
        rw [hread]
        refine Meets.say _ (Meets.take _ ?_ ?_)
        · intro failure hload
          rw [hload]
          exact meets_stop _
        · intro loaded hload
          rw [hload]
          exact meets_pure (some loaded)
    · constructor
      · rintro ⟨source, hread, loaded, hload, rfl⟩
        exact .script hsome hread hload
      · rintro (hnone | ⟨-, hread, hload⟩)
        · exact absurd hnone hsome
        · exact ⟨_, hread, _, hload, rfl⟩

/-- A program is assembled exactly if the source can be read and comes to one. -/
theorem assembled_meets (printer : Printer) (o : Options) (config : Option Config) (input : Bytes)
    (files : FileTree) :
    Meets (assembled printer o config input files) fun p => ∃ source,
      files.read input = .ok source ∧
      ({ Assembler.new with config }.runSource source).result = .ok p := by
  rw [assembled]
  refine Meets.take _ ?_ ?_
  · intro failure hread
    rw [hread]
    exact meets_stop _
  · intro source hread
    rw [hread]
    -- telling what is done does not change what is done
    have hquiet : ((Assembler.mk o.verbose config none).runSource source).result =
        ({ Assembler.new with config }.runSource source).result := by
      rw [Assembler.result_runSource, Assembler.result_runSource]
      rfl
    refine Meets.say _ ?_
    rw [hquiet]
    refine (Meets.take (R := (· = ·)) _ ?_ ?_).congr fun p => exists_eq_right
    · intro failure hfault
      rw [hfault]
      exact meets_stop _
    · intro p hp
      rw [hp]
      exact meets_pure p

/-- The listing of a program with an image does not fail. -/
theorem sayListing_meets (printer : Printer) (o : Options) (input : Bytes) {p : Program}
    {image : Bytes} (h : p.image = .ok image) :
    Meets (sayListing printer o input p) fun _ => True := by
  have hpure : Meets (pure () : Step Unit) fun _ => True :=
    (meets_pure ()).congr fun _ => iff_of_true rfl trivial
  rw [sayListing]
  split
  · have hnone := Program.listing_of_image h
    rcases hlisting : p.writeListing none with ⟨text, failure⟩
    rw [hlisting] at hnone
    cases hnone
    exact hpure.say text
  · exact hpure

/-- The first half gets to its end exactly if what is asked for can be assembled. -/
theorem build_meets (printer : Printer) (o : Options) (files : FileTree) :
    Meets (build host printer o files) fun b =>
      Assembles host o files b.program ∧ b.program.image = .ok b.image := by
  rw [build]
  -- each step of the first half has its own condition, and the image comes last
  refine ((checkNames_meets host o).bind fun input _ =>
    (configuration_meets host printer o files).bind fun config _ =>
    (assembled_meets printer o config input files).bind (R := fun p b =>
      ∃ image, p.image = .ok image ∧ (Build.mk p image) = b) fun p _ => ?_).congr fun b => ?_
  · refine Meets.take _ ?_ ?_
    · intro fault himage
      rw [himage]
      exact meets_stop _
    · intro image himage
      rw [himage]
      refine ((sayListing_meets printer o input himage).bind fun _ _ => meets_pure _).congr
        fun b => ?_
      exact ⟨fun ⟨_, _, hb⟩ => hb, fun hb => ⟨(), trivial, hb⟩⟩
  · constructor
    · rintro ⟨input, hnames, config, hconfig, p, ⟨source, hread, hp⟩, image, himage, rfl⟩
      exact ⟨⟨input, source, config, hnames, hconfig, hread, hp⟩, himage⟩
    · rintro ⟨⟨input, source, config, hnames, hconfig, hread, hp⟩, himage⟩
      exact ⟨input, hnames, config, hconfig, b.program, ⟨source, hread, hp⟩, b.image, himage, rfl⟩

variable {host}

/-- Whatever is assembled has an image. -/
theorem Assembles.exists_image {o : Options} {files : FileTree} {p : Program}
    (h : Assembles host o files p) : ∃ image, p.image = .ok image := by
  obtain ⟨-, source, config, -, -, -, hp⟩ := h
  rw [Assembler.result_runSource] at hp
  split at hp
  · cases hp
  · obtain ⟨D, C, hplaced⟩ := placed_of_assemble (mapError_eq_ok.mp hp)
    exact ⟨_, Program.image_of_joined hplaced.one hplaced.dataBytes hplaced.codeBytes⟩

end Building

/-! ## The second half -/

/-- A run that failed and left nothing behind. -/
structure Outcome.InVain (r : Outcome) (files : FileTree) : Prop where
  status : r.status ≠ 0
  output : r.output = []
  unchanged : r.files = files

/-- Where the image goes: to the standard stream, or to a place for a file. -/
inductive Target (o : Options) (files : FileTree) : Option Path → Prop
  | stream (hstream : o.output = standardStream) : Target o files none
  | file {place : Path} (hfile : o.output ≠ standardStream)
      (hplace : files.Writable o.output place) : Target o files (some place)

/-- No removal is pending: none has been registered, or the output is complete. -/
def Progress.Settled (s : Progress) : Prop := ∀ removal ∈ s.removal, removal.done = true

/-- How far a run has come that has written the image completely. -/
structure Delivered (files : FileTree) (target : Option Path) (image : Bytes) (s : Progress) :
    Prop where
  output : s.output = target.elim image fun _ => []
  wrote : files.Wrote (target.toList.map (·, image)) s.files
  writable : ∀ path place, s.files.Writable path place ↔ files.Writable path place
  settled : s.Settled

section Delivering

variable {host : Host} {o : Options} {files : FileTree} {b : Build} {target : Option Path}

/-- Without a pending removal the files stay as they are when the run ends. -/
theorem Progress.Settled.exit_eq {s : Progress} (h : s.Settled) (status : Nat) :
    s.exit status = ⟨status, s.output, s.errors, s.files⟩ := by
  obtain ⟨output, errors, files, removal⟩ := s
  rcases removal with _ | ⟨path, done⟩
  · rfl
  · cases h _ rfl
    rfl

/-- A file for the image that has a place is opened and filled, and its removal is called off
    exactly if its device takes the image. -/
theorem exists_writeOutput_eq (host : Host) {place : Path} (errors image : Bytes)
    (hfile : o.output ≠ standardStream) (hplace : files.Writable o.output place) :
    ∃ failure, writeOutput host o image (.start errors files) =
        (failure, ⟨[], errors, files.set place ((host.devices place).taken image),
          some ⟨o.output, failure.isNone⟩⟩) ∧
      (failure = none ↔ (host.devices place).Takes image) := by
  obtain ⟨failure, hfill, hnone⟩ :=
    FileTree.exists_fill_eq files host.devices o.output place image
  refine ⟨failure, ?_, hnone⟩
  rw [writeOutput, if_neg hfile]
  dsimp only [Progress.start]
  rw [hplace.create_eq]
  dsimp only
  rw [hfill]

/-- An image that its file takes, or that goes to the standard stream, is written completely. -/
theorem writeOutput_of_takes (errors : Bytes) {image : Bytes} (h : Target o files target)
    (htakes : ∀ place ∈ target, (host.devices place).Takes image) :
    ∃ s, writeOutput host o image (.start errors files) = (none, s) ∧
      Delivered files target image s := by
  cases h with
  | stream hstream =>
    rw [writeOutput, if_pos hstream]
    exact ⟨_, rfl, rfl, .none files, fun _ _ => Iff.rfl, fun _ hr => by cases hr⟩
  | @file place hfile hplace =>
    obtain ⟨failure, hwrite, hnone⟩ :=
      exists_writeOutput_eq host errors image hfile hplace
    cases hnone.mpr (htakes place rfl)
    rw [(htakes place rfl).taken_eq] at hwrite
    exact ⟨_, hwrite, rfl, (FileTree.Wrote.none files).set place image,
      fun _ _ => FileTree.writable_set hplace, fun _ hr => by cases hr; rfl⟩

/-- The symbol map is written without regard to the output and its removal. -/
theorem writeMap_frame (host : Host) (o : Options) (labels : LabelTable) (s : Progress) :
    (writeMap host o labels s).2.output = s.output ∧
      (writeMap host o labels s).2.removal = s.removal := by
  rw [writeMap]
  split <;> exact ⟨rfl, rfl⟩

/-- A run that has written the image completely ends with the files as the symbol map leaves
    them. -/
theorem deliver_of_complete {s s' : Progress} (hwrite : writeOutput host o b.image s = (none, s'))
    (hsettled : s'.Settled) :
    ∃ errors, deliver host o b s =
      ⟨if (writeMap host o b.program.labels s').1 = none then 0 else 1, s'.output, errors,
        (writeMap host o b.program.labels s').2.files⟩ := by
  rw [deliver, hwrite]
  dsimp only
  obtain ⟨houtput, hremoval⟩ := writeMap_frame host o b.program.labels s'
  rcases hmap : writeMap host o b.program.labels s' with ⟨failure, s''⟩
  rw [hmap] at houtput hremoval
  have hend : ∀ text, (s''.tell text).Settled := by
    intro text removal hr
    exact hsettled removal (hremoval ▸ hr)
  rw [← houtput]
  cases failure with
  | none => exact ⟨_, (hend _).exit_eq 0⟩
  | some f => exact ⟨_, (hend _).exit_eq 1⟩

/-- A file that does not take the image is removed, and nothing else has changed. -/
theorem deliver_of_not_takes {place : Path} (b : Build) (errors : Bytes)
    (h : Target o files (some place)) (hnot : ¬(host.devices place).Takes b.image) :
    (deliver host o b (.start errors files)).status ≠ 0 ∧
      (deliver host o b (.start errors files)).output = [] ∧
      files.Removed place (deliver host o b (.start errors files)).files := by
  cases h with
  | file hfile hplace =>
    obtain ⟨failure, hwrite, hnone⟩ := exists_writeOutput_eq host errors b.image hfile hplace
    rw [deliver, hwrite]
    cases failure with
    | none => exact absurd (hnone.mp rfl) hnot
    | some f => exact ⟨Nat.one_ne_zero, rfl, hplace.removed _⟩

/-- Without a place for the image nothing is left behind. -/
theorem deliver_of_not_target (errors : Bytes) (h : ∀ target, ¬Target o files target) :
    (deliver host o b (.start errors files)).InVain files := by
  have hfile : o.output ≠ standardStream := fun hstream => h none (.stream hstream)
  have hplace : ∀ place, ¬files.Writable o.output place :=
    fun place hplace => h (some place) (.file hfile hplace)
  obtain ⟨f, hf⟩ := FileTree.exists_create_eq_error hplace
  rw [deliver, writeOutput, if_neg hfile]
  dsimp only [Progress.start]
  rw [hf]
  exact ⟨Nat.one_ne_zero, rfl, rfl⟩

/-! ### The symbol map behind a complete image -/

section Complete

variable {errors image : Bytes} {p : Program} {s : Progress} {place : Path}
  (hwrite : writeOutput host o image (.start errors files) = (none, s))
  (hdone : Delivered files target image s)

include hwrite hdone

/-- The image is on the standard stream if it is meant to go there. -/
theorem output_deliver :
    (deliver host o ⟨p, image⟩ (.start errors files)).output = target.elim image fun _ => [] := by
  obtain ⟨said, hdeliver⟩ := deliver_of_complete (b := ⟨p, image⟩) hwrite hdone.settled
  rw [hdeliver]
  exact hdone.output

/-- Without a map, the image is all. -/
theorem deliver_without_map (hnone : o.symbols = []) :
    (deliver host o ⟨p, image⟩ (.start errors files)).status = 0 ∧
      files.Wrote (target.toList.map (·, image))
        (deliver host o ⟨p, image⟩ (.start errors files)).files := by
  obtain ⟨said, hdeliver⟩ := deliver_of_complete (b := ⟨p, image⟩) hwrite hdone.settled
  rw [hdeliver, writeMap, if_pos hnone]
  exact ⟨rfl, hdone.wrote⟩

/-- A map without a place makes the run fail, and the image stays. -/
theorem deliver_map_unplaced (hsome : o.symbols ≠ [])
    (hplaces : ∀ place, ¬files.Writable o.symbols place) :
    (deliver host o ⟨p, image⟩ (.start errors files)).status ≠ 0 ∧
      files.Wrote (target.toList.map (·, image))
        (deliver host o ⟨p, image⟩ (.start errors files)).files := by
  obtain ⟨said, hdeliver⟩ := deliver_of_complete (b := ⟨p, image⟩) hwrite hdone.settled
  have hunplaced : ∀ place, ¬s.files.Writable o.symbols place :=
    fun place hplace => hplaces place ((hdone.writable o.symbols place).mp hplace)
  obtain ⟨f, hf⟩ :=
    FileTree.exists_write_eq_of_not_writable hunplaced host.devices p.labels.symbolMap
  rw [hdeliver, writeMap, if_neg hsome, hf]
  exact ⟨Nat.one_ne_zero, hdone.wrote⟩

/-- A map with a place is written as far as its device takes it, and the run fails if that is not
    everything. -/
theorem deliver_map_placed (hsome : o.symbols ≠ [])
    (hplace : files.Writable o.symbols place) :
    ((deliver host o ⟨p, image⟩ (.start errors files)).status = 0 ↔
        (host.devices place).Takes p.labels.symbolMap) ∧
      files.Wrote ((place, (host.devices place).taken p.labels.symbolMap) ::
          target.toList.map (·, image))
        (deliver host o ⟨p, image⟩ (.start errors files)).files := by
  obtain ⟨said, hdeliver⟩ := deliver_of_complete (b := ⟨p, image⟩) hwrite hdone.settled
  obtain ⟨failure, hmap, hnone⟩ := ((hdone.writable o.symbols place).mpr hplace).exists_write_eq
    host.devices p.labels.symbolMap
  rw [hdeliver, writeMap, if_neg hsome, hmap, ← hnone]
  refine ⟨?_, hdone.wrote.set place _⟩
  cases failure with
  | none => exact iff_of_true rfl rfl
  | some f => exact iff_of_false Nat.one_ne_zero (Option.some_ne_none f)

omit hwrite hdone in
/-- A map at another place than the image leaves the image alone. -/
theorem file?_of_wrote_map {part : Bytes} {t : FileTree}
    (h : files.Wrote ((place, part) :: target.toList.map (·, image)) t)
    (hapart : target ≠ some place) : ∀ q ∈ target, t.file? q = some image := by
  rintro q rfl
  have hq : q ≠ place := fun heq => hapart (congrArg some heq)
  rw [h.contents, FileTree.lookup_cons_ite, if_neg hq]
  exact congrArg (Option.or · _) List.lookup_cons_self

end Complete

end Delivering

/-! ## Whole runs -/

section Runs

variable {args : List Bytes} {o : Options} {files : FileTree} (host : Host)

/-- A run goes on with the second half if the first has given something. -/
theorem run_of_build {given : Option Build} {errors : Bytes} (ho : Options.parse args = .ok o)
    (hbuild : (build host (.ofLocales (Locale.preferred host.environment)) o files).run.run [] =
      (given, errors)) :
    run host args files =
      given.elim ⟨1, [], errors, files⟩ fun b => deliver host o b (.start errors files) := by
  rw [run, ho]
  dsimp only
  rw [hbuild]
  cases given <;> rfl

/-- A run whose first half gets to its end goes on with the second. -/
theorem run_of_assembles {p : Program} {image : Bytes} (ho : Options.parse args = .ok o)
    (hp : Assembles host o files p) (himage : p.image = .ok image) :
    ∃ errors, run host args files = deliver host o ⟨p, image⟩ (.start errors files) := by
  rcases hbuild : (build host (.ofLocales (Locale.preferred host.environment)) o files).run.run []
    with ⟨given, errors⟩
  have hgiven : given = some ⟨p, image⟩ := (congrArg Prod.fst hbuild).symm.trans
    ((build_meets host _ o files [] ⟨p, image⟩).mpr ⟨hp, himage⟩)
  refine ⟨errors, ?_⟩
  rw [run_of_build host ho hbuild, hgiven, Option.elim_some]

/-- A run whose first half does not get to its end leaves nothing behind. -/
theorem run_of_not_assembles (ho : Options.parse args = .ok o)
    (hp : ∀ p, ¬Assembles host o files p) : (run host args files).InVain files := by
  rcases hbuild : (build host (.ofLocales (Locale.preferred host.environment)) o files).run.run []
    with ⟨given, errors⟩
  rw [run_of_build host ho hbuild]
  cases given with
  | none => exact ⟨Nat.one_ne_zero, rfl, rfl⟩
  | some b =>
    obtain ⟨hb, -⟩ := (build_meets host _ o files [] b).mp (congrArg Prod.fst hbuild)
    exact absurd hb (hp b.program)

/-- Neither does one with arguments that are not understood. -/
theorem run_of_not_parsed (hhelp : Options.parse args ≠ .error .help)
    (ho : ∀ o, Options.parse args ≠ .ok o) : (run host args files).InVain files := by
  obtain ⟨s, hs⟩ := exists_error_of_ne_ok ho
  rw [run, hs]
  cases s with
  | help => exact absurd hs hhelp
  | fault f => exact ⟨Nat.succ_ne_zero 1, rfl, rfl⟩

end Runs

/-- **WHAT A RUN LEAVES BEHIND.**  Take a run that is not asked for help.

    If the arguments are not understood, the names are not in order, the output is a terminal, there
    is no configuration, no source or no program, or no place for the output, then the run fails,
    writes nothing to its output stream and leaves all files as they are.

    Otherwise there is an image of the program.  If nothing goes wrong with writing it, it is the
    whole output, and it stays there: the run succeeds if no symbol map is asked for, or if the map
    can be written completely, and the map is the only other file written.  Where there is no place
    for the map, or not enough room, the run fails, and still the output is complete.

    If something goes wrong with writing the image to its file, the run fails, and the file is
    removed. -/
theorem run_delivers (host : Host) (args : List Bytes) (files : FileTree)
    (hhelp : Options.parse args ≠ .error .help) :
    let r := run host args files
    ((¬∃ o p target, Options.parse args = .ok o ∧ Assembles host o files p ∧
        Target o files target) →
      r.status ≠ 0 ∧ r.output = [] ∧ r.files = files) ∧
    ∀ o p target, Options.parse args = .ok o → Assembles host o files p → Target o files target →
      ∃ image, p.image = .ok image ∧
        ((∀ place ∈ target, (host.devices place).Takes image) →
          r.output = target.elim image (fun _ => []) ∧
          (o.symbols = [] →
            r.status = 0 ∧ files.Wrote (target.toList.map (·, image)) r.files) ∧
          (o.symbols ≠ [] → (∀ place, ¬files.Writable o.symbols place) →
            r.status ≠ 0 ∧ files.Wrote (target.toList.map (·, image)) r.files) ∧
          (o.symbols ≠ [] → ∀ place, files.Writable o.symbols place →
            ((host.devices place).Takes p.labels.symbolMap → r.status = 0 ∧
              files.Wrote ((place, p.labels.symbolMap) :: target.toList.map (·, image)) r.files) ∧
            (¬(host.devices place).Takes p.labels.symbolMap → r.status ≠ 0 ∧
              ∃ part, part <+: p.labels.symbolMap ∧
                files.Wrote ((place, part) :: target.toList.map (·, image)) r.files) ∧
            (target ≠ some place → ∀ q ∈ target, r.files.file? q = some image))) ∧
        (∀ place ∈ target, ¬(host.devices place).Takes image →
          r.status ≠ 0 ∧ r.output = [] ∧ files.Removed place r.files) := by
  intro r
  constructor
  · intro hnot
    -- whichever of the three is missing first, nothing has been created yet
    suffices hvain : r.InVain files from ⟨hvain.status, hvain.output, hvain.unchanged⟩
    by_cases ho : ∃ o, Options.parse args = .ok o
    · obtain ⟨o, ho⟩ := ho
      by_cases hp : ∃ p, Assembles host o files p
      · obtain ⟨p, hp⟩ := hp
        obtain ⟨image, himage⟩ := hp.exists_image
        obtain ⟨errors, hrun⟩ := run_of_assembles host ho hp himage
        rw [show r = _ from hrun]
        exact deliver_of_not_target errors fun target ht => hnot ⟨o, p, target, ho, hp, ht⟩
      · exact run_of_not_assembles host ho fun p h => hp ⟨p, h⟩
    · exact run_of_not_parsed host hhelp fun o h => ho ⟨o, h⟩
  · intro o p target ho hp htarget
    obtain ⟨image, himage⟩ := hp.exists_image
    obtain ⟨errors, hrun⟩ := run_of_assembles host ho hp himage
    rw [show r = _ from hrun]
    refine ⟨image, himage, ?_, ?_⟩
    · -- the image is complete before the map is begun
      intro htakes
      obtain ⟨s, hwrite, hdone⟩ := writeOutput_of_takes errors htarget htakes
      refine ⟨output_deliver hwrite hdone, deliver_without_map hwrite hdone,
        deliver_map_unplaced hwrite hdone, ?_⟩
      intro hsome place hplace
      obtain ⟨hstatus, hwrote⟩ := deliver_map_placed (p := p) hwrite hdone hsome hplace
      refine ⟨?_, ?_, file?_of_wrote_map hwrote⟩
      · intro hmap
        rw [hmap.taken_eq] at hwrote
        exact ⟨hstatus.mpr hmap, hwrote⟩
      · intro hmap
        exact ⟨mt hstatus.mp hmap, _, Device.taken_prefix _ _, hwrote⟩
    · -- the image is not complete, and its removal is registered by then
      rintro place rfl hnot
      exact deliver_of_not_takes ⟨p, image⟩ errors htarget hnot

/-- A tree with one source file. -/
def lonelyFiles : FileTree where
  files := [([Bytes.ofString "a.asm"], Bytes.ofString "x: .byte 7\n.code\nL: nop")]
  directories := []

/-- The program of that file. -/
def lonelyProgram : Program where
  items :=
    [⟨1, Bytes.ofString "x: .byte 7", 0x9000, some [7], none⟩,
      ⟨3, Bytes.ofString "L: nop", 0x5800, none, some (.derive ⟨0⟩ .none .none)⟩]
  labels := ⟨[⟨Bytes.ofString "L", ⟨0x5800, .code⟩⟩, ⟨Bytes.ofString "x", ⟨0x9000, .data⟩⟩]⟩

/-- The image of the program. -/
def lonelyImage : Bytes := Bytes.ofString ".data:\x07.code:\x00\x00"

/-- Options for the image and a symbol map. -/
def lonelyOptions (symbols : Bytes) : Options where
  output := Bytes.ofString "./a.sse"
  config := []
  symbols := symbols
  listing := true
  verbose := true
  operands := [Bytes.ofString "a.asm"]

/-- The arguments for them. -/
def lonelyArgs (symbols : Bytes) : List Bytes :=
  (["-v", "-o", "./a.sse", "-l=t", "--map"].map Bytes.ofString) ++ [symbols, Bytes.ofString "a.asm"]

/-- A host whose disk has room for so many bytes in each file. -/
def roomyHost (room : Option Nat) : Host where
  environment := fun _ => []
  terminal := true
  interpret := fun _ _ => ⟨[], .error ⟨.unreadable, []⟩⟩
  devices := fun _ => ⟨room, true⟩

/-- The image and the map are written where there is room.  Without a directory for the map, the
    image is kept; without room for the image, it is removed; and it is not written to a
    terminal. -/
theorem run_delivers_lonelyFiles :
    (∀ symbols, Options.parse (lonelyArgs symbols) ≠ .error .help) ∧
    (let r := run (roomyHost none) (lonelyArgs (Bytes.ofString "a.yaml")) lonelyFiles
     r.status = 0 ∧ r.files.file? [Bytes.ofString "a.sse"] = some lonelyImage ∧
       r.files.file? [Bytes.ofString "a.yaml"] = some lonelyProgram.labels.symbolMap) ∧
    (let r := run (roomyHost (some 20)) (lonelyArgs (Bytes.ofString "maps/a.yaml")) lonelyFiles
     r.status ≠ 0 ∧ r.files.file? [Bytes.ofString "a.sse"] = some lonelyImage) ∧
    (let r := run (roomyHost (some 10)) (lonelyArgs []) lonelyFiles
     r.status ≠ 0 ∧ r.files.file? [Bytes.ofString "a.sse"] = none) ∧
    (let r := run (roomyHost none) (["-o", "-", "a.asm"].map Bytes.ofString) lonelyFiles
     r.status ≠ 0 ∧ r.output = [] ∧ r.files = lonelyFiles) := by
  have hparse : ∀ symbols, Options.parse (lonelyArgs symbols) = .ok (lonelyOptions symbols) :=
    fun _ => rfl
  have hhelp : ∀ symbols, Options.parse (lonelyArgs symbols) ≠ .error .help := by
    intro symbols h
    cases (hparse symbols).symm.trans h
  have hname : Bytes.ofString ".sse" <:+ Bytes.ofString "./a.sse" := by decide
  have hfile : Bytes.ofString "./a.sse" ≠ standardStream := by decide
  have hp : ∀ room symbols,
      Assembles (roomyHost room) (lonelyOptions symbols) lonelyFiles lonelyProgram := by
    intro room symbols
    refine ⟨Bytes.ofString "a.asm", Bytes.ofString "x: .byte 7\n.code\nL: nop", none, ?_,
      .default rfl, by decide +kernel, by decide +kernel⟩
    exact ⟨rfl, List.cons_ne_nil _ _, by decide, .inr hname, fun h => absurd h hfile⟩
  have hplace : lonelyFiles.Writable (Bytes.ofString "./a.sse") [Bytes.ofString "a.sse"] :=
    ⟨by decide +kernel, by decide +kernel⟩
  have htarget : ∀ symbols,
      Target (lonelyOptions symbols) lonelyFiles (some [Bytes.ofString "a.sse"]) :=
    fun _ => .file hfile hplace
  have himage : lonelyProgram.image = .ok lonelyImage := by decide +kernel
  have hlength : lonelyImage.length = 15 := by decide +kernel
  refine ⟨hhelp, ?_, ?_, ?_, ?_⟩
  · -- enough room for both
    obtain ⟨-, hdelivers⟩ :=
      run_delivers (roomyHost none) _ lonelyFiles (hhelp (Bytes.ofString "a.yaml"))
    obtain ⟨image, himage', hcomplete, -⟩ := hdelivers _ _ _ (hparse _) (hp _ _) (htarget _)
    cases himage.symm.trans himage'
    have htakes : ∀ (place : Path) (contents : Bytes),
        ((roomyHost none).devices place).Takes contents :=
      fun _ _ => ⟨fun _ h => (by cases h), rfl⟩
    obtain ⟨-, -, -, hmap⟩ := hcomplete fun place _ => htakes place _
    obtain ⟨hroom, -, hkept⟩ := hmap (by decide) [Bytes.ofString "a.yaml"]
      ⟨by decide +kernel, by decide +kernel⟩
    obtain ⟨hstatus, hwrote⟩ := hroom (htakes _ _)
    refine ⟨hstatus, hkept (by decide +kernel) _ rfl, ?_⟩
    rw [hwrote.contents, List.lookup_cons_self]
    rfl
  · -- room for the image, and no directory for the map
    obtain ⟨-, hdelivers⟩ :=
      run_delivers (roomyHost (some 20)) _ lonelyFiles (hhelp (Bytes.ofString "maps/a.yaml"))
    obtain ⟨image, himage', hcomplete, -⟩ := hdelivers _ _ _ (hparse _) (hp _ _) (htarget _)
    cases himage.symm.trans himage'
    obtain ⟨-, -, hnomap, -⟩ := hcomplete fun place _ => by
      refine ⟨?_, rfl⟩
      rintro n ⟨⟩
      omega
    obtain ⟨hstatus, hwrote⟩ := hnomap (by decide) fun place hplace => by
      cases hplace.leads
    refine ⟨hstatus, ?_⟩
    rw [hwrote.contents]
    rfl
  · -- ten bytes for an image of fifteen
    obtain ⟨-, hdelivers⟩ := run_delivers (roomyHost (some 10)) _ lonelyFiles (hhelp [])
    obtain ⟨image, himage', -, hpartial⟩ := hdelivers _ _ _ (hparse _) (hp _ _) (htarget _)
    cases himage.symm.trans himage'
    obtain ⟨hstatus, -, hremoved⟩ := hpartial _ rfl fun htakes => by
      have hfits := htakes.fits 10 rfl
      omega
    refine ⟨hstatus, ?_⟩
    rw [hremoved.contents, if_pos rfl]
  · -- the output is the terminal
    have hstream : Options.parse (["-o", "-", "a.asm"].map Bytes.ofString) =
        .ok ⟨standardStream, [], [], false, false, [Bytes.ofString "a.asm"]⟩ := rfl
    obtain ⟨hvain, -⟩ := run_delivers (roomyHost none) _ lonelyFiles
      (fun h => by cases hstream.symm.trans h)
    refine hvain ?_
    rintro ⟨o, p, target, ho, ⟨input, source, config, hnames, -⟩, -⟩
    cases hstream.symm.trans ho
    cases hnames.stream rfl

end Command

end TwoPass
