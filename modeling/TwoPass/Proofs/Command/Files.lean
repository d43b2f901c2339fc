import Mathlib.Data.List.Basic
import TwoPass.Command.FileTree
import TwoPass.Proofs.Success

/-!
# Writing into a file tree

A file is written where its path leads to.  This changes what that one file holds
(`file?_set`), and it makes no directory: all names but the last were followed to directories that
exist (`isDirectory_of_resolveNew`).  So every other path can be written on as before
(`writable_set`), and what a few writes leave behind is known from the places written at
(`Wrote`).  Removing the file again changes what that one file holds, too, and takes no
directory away (`Writable.removed`).
-/

namespace TwoPass

/-- What lies above the end of a step lies above its start, or is its start. -/
theorem Path.prefix_of_prefix_step {q here : Path} {name : Bytes} (h : q <+: here.step name)
    (hne : q ≠ here.step name) : q <+: here := by
  rw [step] at h hne
  split at h
  · exact h
  · split at h
    · split at h
      · exact h
      · exact h.trans (List.dropLast_prefix here)
    · rename_i hname hup
      rw [if_neg hname, if_neg hup] at hne
      exact (List.prefix_concat_iff.mp h).resolve_left hne

/-- What lies above a path lies above the directory of the path, or is this directory. -/
theorem Path.prefix_dropLast {p q : Path} (h : q <+: p) (hne : q ≠ p) : q <+: p.dropLast := by
  have hp : p ≠ [] := by
    rintro rfl
    exact hne (List.prefix_nil.mp h)
  rw [← List.dropLast_concat_getLast hp] at h hne
  exact (List.prefix_concat_iff.mp h).resolve_left hne

namespace FileTree

variable {t t' : FileTree} {p q : Path} {path contents : Bytes}

/-! ## Directories -/

/-- What is a directory: the working directory, what is listed as one, and what lies above
    something. -/
theorem isDirectory_iff :
    t.isDirectory p = true ↔ p = [] ∨ p ∈ t.directories ∨
      ∃ q ∈ t.directories ++ t.files.map Prod.fst, p <+: q ∧ p ≠ q := by
  simp only [isDirectory, Bool.or_eq_true, beq_iff_eq, List.contains_iff_mem, List.any_eq_true,
    Bool.and_eq_true, List.isPrefixOf_iff_prefix, bne_iff_ne, List.mem_append, List.mem_map,
    or_and_right, exists_or, or_assoc]
  simp only [exists_exists_and_eq_and]

/-- What lies above a directory is one. -/
theorem isDirectory_of_prefix (h : t.isDirectory q = true) (hpq : p <+: q) :
    t.isDirectory p = true := by
  by_cases heq : p = q
  · rw [heq]
    exact h
  · refine isDirectory_iff.mpr ?_
    rcases isDirectory_iff.mp h with rfl | hlisted | ⟨r, hr, hqr, -⟩
    · exact .inl (List.prefix_nil.mp hpq)
    · exact .inr (.inr ⟨q, List.mem_append_left _ hlisted, hpq, heq⟩)
    · refine .inr (.inr ⟨r, hr, hpq.trans hqr, ?_⟩)
      rintro rfl
      exact heq (hpq.eq_of_length_le hqr.length_le)

/-- What is listed as a directory is one. -/
theorem isDirectory_of_mem (h : q ∈ t.directories) : t.isDirectory q = true :=
  isDirectory_iff.mpr (.inr (.inl h))

/-- What lies above a file is a directory. -/
theorem isDirectory_above {r : Path} (h : r ∈ t.files.map Prod.fst) (hq : q <+: r) (hne : q ≠ r) :
    t.isDirectory q = true :=
  isDirectory_iff.mpr (.inr (.inr ⟨r, List.mem_append_right _ h, hq, hne⟩))

/-- **NO DIRECTORY IS LOST.**  All directories of a tree are directories of another one, if what is
    listed and what lies above a file is. -/
theorem isDirectory_mono (hlisted : ∀ r ∈ t.directories, t'.isDirectory r = true)
    (habove : ∀ r ∈ t.files.map Prod.fst, ∀ q, q <+: r → q ≠ r → t'.isDirectory q = true)
    (h : t.isDirectory q = true) : t'.isDirectory q = true := by
  rcases isDirectory_iff.mp h with hnil | hq | ⟨r, hr, hq, hne⟩
  · exact isDirectory_iff.mpr (.inl hnil)
  · exact hlisted q hq
  · rcases List.mem_append.mp hr with hr | hr
    · exact isDirectory_of_prefix (hlisted r hr) hq
    · exact habove r hr q hq hne

/-- Following names, one passes through directories only. -/
theorem isDirectory_of_walk {here : Path} {names : List Bytes} (h : t.walk here names = .ok p)
    (hhere : t.isDirectory here = true) (hq : q <+: p) (hne : q ≠ p) : t.isDirectory q = true := by
  induction names generalizing here with
  | nil =>
    cases h
    exact isDirectory_of_prefix hhere hq
  | cons name rest ih =>
    rw [walk] at h
    split at h
    · cases h
    · split at h
      · rename_i hnext
        rcases Bool.or_eq_true_iff.mp hnext with hlast | hnext
        · -- the last name may lead to anything
          rw [List.isEmpty_iff.mp hlast] at h
          cases h
          exact isDirectory_of_prefix hhere (Path.prefix_of_prefix_step hq hne)
        · exact ih h hnext
      · split at h <;> cases h

/-- A path on which a file can be written ends in a name that other names lead up to. -/
theorem resolveNew_eq_ok :
    t.resolveNew path = .ok p ↔ Path.closedParent? path = none ∧
      ¬Path.lengthLimit < path.length ∧ t.walk [] (Path.components path) = .ok p := by
  rw [resolveNew]
  split
  · rename_i hopen
    rw [resolve, and_iff_right hopen]
    split
    · rename_i hlong
      exact iff_of_false (fun h => by cases h) fun h => h.1 hlong
    · rename_i hshort
      rw [and_iff_right hshort]
  · rename_i above hclosed
    refine iff_of_false ?_ fun h => by cases hclosed.symm.trans h.1
    intro h
    split at h
    · cases h
    · -- slashes behind the name: this would be a directory
      obtain ⟨_, -, hdirectory⟩ := bind_eq_ok.mp h
      cases hdirectory

/-- Where a file is to be written, all that lies above is a directory. -/
theorem isDirectory_of_resolveNew (h : t.resolveNew path = .ok p) (hq : q <+: p) (hne : q ≠ p) :
    t.isDirectory q = true := by
  obtain ⟨-, -, hwalk⟩ := resolveNew_eq_ok.mp h
  exact isDirectory_of_walk hwalk (isDirectory_iff.mpr (.inl rfl)) hq hne

/-! ## Setting one file -/

theorem lookup_cons_ite (q r : Path) (old : Bytes) (files : List (Path × Bytes)) :
    ((r, old) :: files).lookup q = if q = r then some old else files.lookup q := by
  by_cases hq : q = r
  · subst hq
    rw [if_pos rfl, List.lookup_cons_self]
  · rw [if_neg hq, List.lookup_cons, beq_false_of_ne hq]

/-- A file that is there and is set is found with its new contents, every other one with its own. -/
theorem lookup_map_set (files : List (Path × Bytes)) (p q : Path) (contents : Bytes) :
    (files.map fun f => if f.1 = p then (p, contents) else f).lookup q =
      if q = p then (files.lookup p).map fun _ => contents else files.lookup q := by
  induction files with
  | nil => split <;> rfl
  | cons f files ih =>
    obtain ⟨r, old⟩ := f
    by_cases hr : r = p
    · subst hr
      rw [List.map_cons, if_pos rfl, lookup_cons_ite, lookup_cons_ite, lookup_cons_ite, ih]
      split <;> simp
    · rw [List.map_cons, if_neg hr, lookup_cons_ite, lookup_cons_ite, lookup_cons_ite, ih,
        if_neg (Ne.symm hr)]
      split
      · rename_i hqr
        rw [if_neg (hqr ▸ hr)]
      · rfl

/-- A file holds what it is set to, and every other file what it held. -/
theorem file?_set (t : FileTree) (p q : Path) (contents : Bytes) :
    (t.set p contents).file? q = if q = p then some contents else t.file? q := by
  rw [set]
  split
  · rename_i hfile
    obtain ⟨old, hold⟩ := Option.isSome_iff_exists.mp hfile
    rw [file?, lookup_map_set]
    rw [file?] at hold
    rw [hold]
    rfl
  · rename_i hfile
    rw [Option.not_isSome_iff_eq_none, file?] at hfile
    rw [file?, List.lookup_append, lookup_cons_ite, file?]
    split
    · rename_i hq
      rw [hq, hfile]
      rfl
    · exact Option.or_none

theorem directories_set (t : FileTree) (p : Path) (contents : Bytes) :
    (t.set p contents).directories = t.directories := by
  rw [set]
  split <;> rfl

/-- Setting a file adds its place to those that there are. -/
theorem mem_paths_set {r : Path} :
    r ∈ (t.set p contents).files.map Prod.fst ↔ r = p ∨ r ∈ t.files.map Prod.fst := by
  rw [set]
  split
  · rename_i hfile
    -- the place is one of those that were there
    obtain ⟨f, hf, hpf⟩ := List.lookup_isSome_iff.mp hfile
    have hp : p ∈ t.files.map Prod.fst := List.mem_map.mpr ⟨f, hf, (eq_of_beq hpf).symm⟩
    have hpaths : (t.files.map fun f => if f.1 = p then (p, contents) else f).map Prod.fst =
        t.files.map Prod.fst := by
      rw [List.map_map]
      refine List.map_congr_left fun f _ => ?_
      show (if f.1 = p then (p, contents) else f).1 = f.1
      split
      · rename_i hf
        exact hf.symm
      · rfl
    rw [hpaths]
    constructor
    · exact .inr
    · rintro (rfl | hr)
      · exact hp
      · exact hr
  · rw [List.map_append, List.mem_append, List.map_singleton, List.mem_singleton, or_comm]

/-- A file below directories makes no new one. -/
theorem isDirectory_set (hp : ∀ q, q <+: p → q ≠ p → t.isDirectory q = true) (q : Path) :
    (t.set p contents).isDirectory q = t.isDirectory q := by
  rw [Bool.eq_iff_iff]
  constructor
  · refine isDirectory_mono ?_ ?_
    · intro r hr
      rw [directories_set] at hr
      exact isDirectory_of_mem hr
    · intro r hr q hq hne
      -- only the file that is set can be new, and what it lies below are directories already
      rcases mem_paths_set.mp hr with rfl | hr
      · exact hp q hq hne
      · exact isDirectory_above hr hq hne
  · refine isDirectory_mono ?_ ?_
    · intro r hr
      rw [← directories_set t p contents] at hr
      exact isDirectory_of_mem hr
    · intro r hr q hq hne
      exact isDirectory_above (mem_paths_set.mpr (.inr hr)) hq hne

/-- Names lead to the same place in trees with the same directories. -/
theorem walk_congr (h : ∀ q, t'.isDirectory q = t.isDirectory q) {here : Path}
    {names : List Bytes} : t'.walk here names = .ok p ↔ t.walk here names = .ok p := by
  induction names generalizing here with
  | nil => exact Iff.rfl
  | cons name rest ih =>
    rw [walk, walk]
    split
    · exact Iff.rfl
    · rw [h]
      split
      · exact ih
      · constructor
        · intro hwalk
          split at hwalk <;> cases hwalk
        · intro hwalk
          split at hwalk <;> cases hwalk

/-- So do the names of a path on which a file is to be written. -/
theorem resolveNew_congr (h : ∀ q, t'.isDirectory q = t.isDirectory q) :
    t'.resolveNew path = .ok p ↔ t.resolveNew path = .ok p := by
  rw [resolveNew_eq_ok, resolveNew_eq_ok, walk_congr h]

/-- What a file was set to before does not matter. -/
theorem set_set (t : FileTree) (p : Path) (old contents : Bytes) :
    (t.set p old).set p contents = t.set p contents := by
  have hfile : ((t.set p old).file? p).isSome = true := by
    rw [file?_set, if_pos rfl]
    rfl
  rw [set, if_pos hfile, set, set]
  split
  · -- the place is one of those that were there
    congr 1
    rw [List.map_map]
    refine List.map_congr_left fun f _ => ?_
    show (if (if f.1 = p then (p, old) else f).1 = p then (p, contents)
      else if f.1 = p then (p, old) else f) = if f.1 = p then (p, contents) else f
    by_cases hf : f.1 = p
    · simp only [if_pos hf]
      rfl
    · simp only [if_neg hf]
  · -- it was new, and so stands behind all others
    rename_i hnew
    have hothers : ∀ f ∈ t.files, f.1 ≠ p := by
      intro f hf hp
      exact hnew (List.lookup_isSome_iff.mpr ⟨f, hf, beq_iff_eq.mpr hp.symm⟩)
    congr 1
    rw [List.map_append, List.map_singleton, if_pos rfl]
    congr 1
    calc t.files.map (fun f => if f.1 = p then (p, contents) else f)
      _ = t.files.map id := List.map_congr_left fun f hf => if_neg (hothers f hf)
      _ = t.files := List.map_id _

end FileTree

/-! ## Writing files -/

namespace Device

variable {d : Device} {contents : Bytes}

/-- A device has room for bytes, and closes the file behind them. -/
structure Takes (d : Device) (contents : Bytes) : Prop where
  fits : ∀ n ∈ d.room, contents.length ≤ n
  closes : d.closes = true

/-- Nothing goes wrong exactly if the device takes all bytes. -/
theorem problem?_eq_none_iff : d.problem? contents = none ↔ d.Takes contents := by
  have hfits : d.room.any (· < contents.length) = false ↔ ∀ n ∈ d.room, contents.length ≤ n := by
    cases d.room <;> simp
  rw [problem?]
  split
  · rename_i hfull
    refine iff_of_false (fun h => by cases h) fun h => ?_
    rw [hfits.mpr h.fits] at hfull
    cases hfull
  · rename_i hroom
    rw [Bool.not_eq_true, hfits] at hroom
    split
    · rename_i hcloses
      exact iff_of_true rfl ⟨hroom, hcloses⟩
    · rename_i hopen
      exact iff_of_false (fun h => by cases h) fun h => hopen h.closes

/-- Then they are what the file holds. -/
theorem Takes.taken_eq (h : d.Takes contents) : d.taken contents = contents := by
  rw [taken]
  split
  · rfl
  · rename_i n hroom
    exact List.take_of_length_le (h.fits n hroom)

/-- In any case the file holds the first of them. -/
theorem taken_prefix (d : Device) (contents : Bytes) : d.taken contents <+: contents := by
  rw [taken]
  split
  · exact List.prefix_rfl
  · exact List.take_prefix _ _

end Device

namespace FileTree

variable {t t' : FileTree} {p q : Path} {path contents : Bytes}

/-- A file can be written on a path, and it is the one at a place. -/
structure Writable (t : FileTree) (path : Bytes) (p : Path) : Prop where
  leads : t.resolveNew path = .ok p
  free : t.isDirectory p = false

/-- Opening makes the file empty. -/
theorem Writable.create_eq (h : t.Writable path p) : t.create path = .ok (p, t.set p []) := by
  rw [create, h.leads]
  show (if t.isDirectory p then _ else _) = _
  rw [h.free]
  rfl

/-- On any other path no file is opened. -/
theorem exists_create_eq_error (h : ∀ p, ¬t.Writable path p) : ∃ f, t.create path = .error f := by
  rw [create]
  cases hleads : t.resolveNew path with
  | error problem => exact ⟨_, rfl⟩
  | ok p =>
    cases hdirectory : t.isDirectory p with
    | false => exact absurd ⟨hleads, hdirectory⟩ (h p)
    | true => exact ⟨⟨"open", path, .isDirectory⟩, by simp [hdirectory]⟩

/-- A file that was opened holds in the end what its device takes, and it does not show that it was
    empty in between.  The filling fails exactly if that is not everything. -/
theorem exists_fill_eq (t : FileTree) (devices : Path → Device) (path : Bytes) (p : Path)
    (contents : Bytes) :
    ∃ failure, (t.set p []).fill devices path p contents =
        (failure, t.set p ((devices p).taken contents)) ∧
      (failure = none ↔ (devices p).Takes contents) := by
  rw [fill, set_set]
  refine ⟨_, rfl, ?_⟩
  rw [Option.map_eq_none_iff, Device.problem?_eq_none_iff]

/-- So does a file that is opened and filled. -/
theorem Writable.exists_write_eq (h : t.Writable path p) (devices : Path → Device)
    (contents : Bytes) :
    ∃ failure, t.write devices path contents = (failure, t.set p ((devices p).taken contents)) ∧
      (failure = none ↔ (devices p).Takes contents) := by
  rw [write, h.create_eq]
  exact exists_fill_eq t devices path p contents

/-- A file that cannot be opened is not written, either. -/
theorem exists_write_eq_of_not_writable (h : ∀ p, ¬t.Writable path p) (devices : Path → Device)
    (contents : Bytes) : ∃ f, t.write devices path contents = (some f, t) := by
  obtain ⟨f, hf⟩ := exists_create_eq_error h
  rw [write, hf]
  exact ⟨f, rfl⟩

/-- One write neither makes nor spoils the place of another. -/
theorem writable_set {path' : Bytes} (h : t.Writable path p) :
    (t.set p contents).Writable path' q ↔ t.Writable path' q := by
  have hsame : ∀ r, (t.set p contents).isDirectory r = t.isDirectory r :=
    isDirectory_set fun r => isDirectory_of_resolveNew h.leads
  constructor
  · rintro ⟨hleads, hfree⟩
    exact ⟨(resolveNew_congr hsame).mp hleads, hsame q ▸ hfree⟩
  · rintro ⟨hleads, hfree⟩
    exact ⟨(resolveNew_congr hsame).mpr hleads, (hsame q).trans hfree⟩

/-- A tree behind some writes, the latest in front: a file holds what was last written at its
    place, and where nothing was written everything is as it was. -/
structure Wrote (t : FileTree) (writes : List (Path × Bytes)) (t' : FileTree) : Prop where
  directories : t'.directories = t.directories
  contents : ∀ q, t'.file? q = (writes.lookup q).or (t.file? q)

theorem Wrote.none (t : FileTree) : t.Wrote [] t := ⟨rfl, fun _ => rfl⟩

theorem Wrote.set {writes : List (Path × Bytes)} (h : t.Wrote writes t') (p : Path)
    (contents : Bytes) : t.Wrote ((p, contents) :: writes) (t'.set p contents) := by
  constructor
  · rw [directories_set, h.directories]
  · intro q
    rw [file?_set, lookup_cons_ite, h.contents]
    split <;> rfl

/-! ## Removing a file -/

/-- A tree without a file that may have been there, and otherwise as it was. -/
structure Removed (t : FileTree) (p : Path) (t' : FileTree) : Prop where
  directories : ∀ q, t'.isDirectory q = t.isDirectory q
  contents : ∀ q, t'.file? q = if q = p then none else t.file? q

theorem lookup_filter_ne (files : List (Path × Bytes)) (p q : Path) :
    (files.filter (·.1 != p)).lookup q = if q = p then none else files.lookup q := by
  induction files with
  | nil => split <;> rfl
  | cons f files ih =>
    obtain ⟨r, old⟩ := f
    by_cases hr : r = p
    · subst hr
      rw [List.filter_cons_of_neg (by simp), ih, lookup_cons_ite]
      split <;> rfl
    · rw [List.filter_cons_of_pos (by simpa using hr), lookup_cons_ite, lookup_cons_ite, ih]
      split
      · rename_i hqr
        rw [if_neg (hqr ▸ hr)]
      · rfl

/-- A file that is removed holds nothing, and every other file what it held. -/
theorem file?_remove (h : t.resolve path = .ok p) (q : Path) :
    (t.remove path).file? q = if q = p then none else t.file? q := by
  rw [remove, h]
  dsimp only
  split
  · exact lookup_filter_ne t.files p q
  · rename_i hnone
    split
    · rename_i hq
      rw [hq]
      exact Option.not_isSome_iff_eq_none.mp hnone
    · rfl

/-- The directory of a file is one, if what lies above the file is. -/
theorem isDirectory_dropLast (hp : ∀ q, q <+: p → q ≠ p → t.isDirectory q = true) :
    t.isDirectory p.dropLast = true := by
  by_cases hnil : p = []
  · rw [hnil]
    exact isDirectory_iff.mpr (.inl rfl)
  · refine hp _ (List.dropLast_prefix p) fun heq => hnil ?_
    have hlength := congrArg List.length heq
    rw [List.length_dropLast] at hlength
    exact List.eq_nil_of_length_eq_zero (by omega)

/-- The directory of a file that is removed stays, and so does every other one. -/
theorem isDirectory_remove (h : t.resolve path = .ok p)
    (hp : ∀ q, q <+: p → q ≠ p → t.isDirectory q = true) (q : Path) :
    (t.remove path).isDirectory q = t.isDirectory q := by
  rw [remove, h]
  dsimp only
  split
  · rw [Bool.eq_iff_iff]
    constructor
    · refine isDirectory_mono ?_ ?_
      · intro r hr
        -- the one new entry is the directory of the file
        rcases List.mem_cons.mp hr with rfl | hr
        · exact isDirectory_dropLast hp
        · exact isDirectory_of_mem hr
      · intro r hr q hq hne
        obtain ⟨f, hf, rfl⟩ := List.mem_map.mp hr
        exact isDirectory_above (List.mem_map_of_mem (List.mem_of_mem_filter hf)) hq hne
    · refine isDirectory_mono ?_ ?_
      · intro r hr
        exact isDirectory_of_mem (List.mem_cons_of_mem _ hr)
      · intro r hr q hq hne
        by_cases hrp : r = p
        · -- what lay above the file has its directory below it, or is this directory
          subst hrp
          exact isDirectory_of_prefix (isDirectory_of_mem List.mem_cons_self)
            (Path.prefix_dropLast hq hne)
        · obtain ⟨f, hf, rfl⟩ := List.mem_map.mp hr
          have hkept : f ∈ t.files.filter (·.1 != p) :=
            List.mem_filter.mpr ⟨hf, bne_iff_ne.mpr hrp⟩
          exact isDirectory_above (List.mem_map_of_mem hkept) hq hne
  · rfl

/-- Removing a file behind its writing leaves everything else as it was before. -/
theorem Writable.removed (h : t.Writable path p) (contents : Bytes) :
    t.Removed p ((t.set p contents).remove path) := by
  have hafter : (t.set p contents).Writable path p := (writable_set h).mpr h
  obtain ⟨hopen, hshort, hwalk⟩ := resolveNew_eq_ok.mp hafter.leads
  have hresolve : (t.set p contents).resolve path = .ok p := by
    rw [resolve, if_neg hshort, hwalk]
  constructor
  · intro q
    rw [isDirectory_remove hresolve fun r => isDirectory_of_resolveNew hafter.leads]
    exact isDirectory_set (fun r => isDirectory_of_resolveNew h.leads) q
  · intro q
    rw [file?_remove hresolve, file?_set]
    split <;> rfl

end FileTree

end TwoPass
