import TwoPass.Proofs.Success

/-!
# Failure — which part of a computation that failed has failed

The counterpart of success: each lemma takes one way of putting computations together and says
where a fault that comes out of it was found, and that everything in front of it had succeeded.
`FailsOnly` bounds the faults that can come out at all, part by part; `Decides` says exactly which
results and which faults there are.
-/

namespace TwoPass

variable {ε ε' α β σ : Type}

/-- Two steps fail if the first does, or if the second does behind it. -/
theorem bind_eq_error {x : Except ε α} {f : α → Except ε β} {e : ε} :
    (x >>= f) = .error e ↔ x = .error e ∨ ∃ a, x = .ok a ∧ f a = .error e := by
  cases x with
  | error e' =>
      constructor
      · intro h
        exact Or.inl (congrArg Except.error (Except.error.inj h))
      · rintro (h | ⟨a, h, -⟩)
        · cases h
          rfl
        · cases h
  | ok a =>
      constructor
      · intro h
        exact Or.inr ⟨a, rfl, h⟩
      · rintro (h | ⟨a', h, h'⟩)
        · cases h
        · cases h
          exact h'

theorem map_eq_error {f : α → β} {x : Except ε α} {e : ε} :
    x.map f = .error e ↔ x = .error e := by
  cases x with
  | error e' =>
      constructor
      · intro h
        exact congrArg Except.error (Except.error.inj h)
      · intro h
        cases h
        rfl
  | ok a =>
      constructor
      · intro h
        cases h
      · intro h
        cases h

/-- A located fault has a cause. -/
theorem mapError_eq_error {f : ε → ε'} {x : Except ε α} {e : ε'} :
    x.mapError f = .error e ↔ ∃ cause, x = .error cause ∧ e = f cause := by
  cases x with
  | error cause =>
      constructor
      · intro h
        exact ⟨cause, rfl, (Except.error.inj h).symm⟩
      · rintro ⟨cause', h, rfl⟩
        cases h
        rfl
  | ok a =>
      constructor
      · intro h
        cases h
      · rintro ⟨_, h, -⟩
        cases h

/-- A fault of a list of computations is that of the first one that has a fault. -/
theorem mapM_eq_error {f : α → Except ε β} {xs : List α} {e : ε} :
    xs.mapM f = .error e ↔ ∃ before x behind, xs = before ++ x :: behind ∧
      (∀ y ∈ before, ∃ b, f y = .ok b) ∧ f x = .error e := by
  constructor
  · intro h
    induction xs with
    | nil =>
        rw [List.mapM_nil] at h
        cases h
    | cons x xs ih =>
        rw [List.mapM_cons] at h
        rcases bind_eq_error.mp h with hx | ⟨b, hb, h⟩
        · exact ⟨[], x, xs, rfl, fun y hy => absurd hy List.not_mem_nil, hx⟩
        · rcases bind_eq_error.mp h with hxs | ⟨bs, -, h⟩
          · -- the first one went well, so it joins those in front
            obtain ⟨before, x', behind, rfl, hbefore, hx'⟩ := ih hxs
            refine ⟨x :: before, x', behind, rfl, ?_, hx'⟩
            intro y hy
            rcases List.mem_cons.mp hy with rfl | hy
            · exact ⟨b, hb⟩
            · exact hbefore y hy
          · cases h
  · rintro ⟨before, x, behind, rfl, hbefore, hx⟩
    obtain ⟨bs, hbs⟩ := exists_forall₂ hbefore
    rw [List.mapM_append, List.mapM_cons, mapM_eq_ok.mpr hbs, hx]
    rfl

/-- A fault of a list of computations is that of one of them. -/
theorem exists_of_mapM_eq_error {f : α → Except ε β} {xs : List α} {e : ε}
    (h : xs.mapM f = .error e) : ∃ x ∈ xs, f x = .error e := by
  obtain ⟨before, x, behind, rfl, -, hx⟩ := mapM_eq_error.mp h
  exact ⟨x, List.mem_append_right before List.mem_cons_self, hx⟩

/-- A loop over two lists fails in the first, or behind it in the second. -/
theorem foldlM_append_eq_error {f : σ → α → Except ε σ} {s : σ} {xs ys : List α} {e : ε} :
    (xs ++ ys).foldlM f s = .error e ↔
      xs.foldlM f s = .error e ∨ ∃ t, xs.foldlM f s = .ok t ∧ ys.foldlM f t = .error e := by
  rw [List.foldlM_append, bind_eq_error]

theorem foldlM_singleton {f : σ → α → Except ε σ} {s : σ} {x : α} : [x].foldlM f s = f s x := by
  rw [List.foldlM_cons]
  cases f s x with
  | error e => rfl
  | ok t => rfl

/-! ## Kinds of fault -/

/-- A computation whose faults are all of a kind. -/
def FailsOnly (E : ε → Prop) (x : Except ε α) : Prop := ∀ e, x = .error e → E e

namespace FailsOnly

variable {E E' : ε → Prop} {x : Except ε α}

theorem ok (a : α) : FailsOnly E (.ok a) := by
  intro e h
  cases h

theorem error {e : ε} (he : E e) : FailsOnly E (.error e : Except ε α) := by
  intro e' h
  cases h
  exact he

theorem imp (h : FailsOnly E x) (hE : ∀ e, E e → E' e) : FailsOnly E' x :=
  fun e he => hE e (h e he)

/-- A computation fails as its steps do. -/
theorem bind {f : α → Except ε β} (h : FailsOnly E x) (hf : ∀ a, FailsOnly E (f a)) :
    FailsOnly E (x >>= f) := by
  intro e he
  rcases bind_eq_error.mp he with hx | ⟨a, -, ha⟩
  · exact h e hx
  · exact hf a e ha

theorem map {f : α → β} (h : FailsOnly E x) : FailsOnly E (x.map f) :=
  fun e he => h e (map_eq_error.mp he)

/-- A list of computations fails as its members do. -/
theorem mapM {f : β → Except ε α} (hf : ∀ b, FailsOnly E (f b)) (bs : List β) :
    FailsOnly E (bs.mapM f) := by
  intro e he
  obtain ⟨b, -, hb⟩ := exists_of_mapM_eq_error he
  exact hf b e hb

end FailsOnly

/-! ## Exact outcomes -/

/-- A computation whose results and whose faults are exactly those of two predicates. -/
structure Decides (x : Except ε α) (P : α → Prop) (Q : ε → Prop) : Prop where
  ok_iff : ∀ a, x = .ok a ↔ P a
  error_iff : ∀ e, x = .error e ↔ Q e

/-- It is enough that every case has its outcome and that there always is a case. -/
theorem Decides.of_cases {x : Except ε α} {P : α → Prop} {Q : ε → Prop}
    (hok : ∀ a, P a → x = .ok a) (herror : ∀ e, Q e → x = .error e)
    (hcases : (∃ a, P a) ∨ ∃ e, Q e) : Decides x P Q := by
  constructor
  · intro a
    refine ⟨fun hx => ?_, hok a⟩
    rcases hcases with ⟨a', ha'⟩ | ⟨e, he⟩
    · cases hx.symm.trans (hok a' ha')
      exact ha'
    · cases hx.symm.trans (herror e he)
  · intro e
    refine ⟨fun hx => ?_, herror e⟩
    rcases hcases with ⟨a, ha⟩ | ⟨e', he'⟩
    · cases hx.symm.trans (hok a ha)
    · cases hx.symm.trans (herror e' he')
      exact he'

/-- Looking something up gives what is found, or one fault if nothing is. -/
theorem Decides.of_lookup {x : Except ε α} {o : Option α} {P : α → Prop} {e : ε}
    (hx : x = o.elim (.error e) .ok) (ho : ∀ a, o = some a ↔ P a) :
    Decides x P fun f => (∀ a, ¬ P a) ∧ f = e := by
  cases o with
  | some a =>
      have ha : P a := (ho a).mp rfl
      refine .of_cases ?_ ?_ (Or.inl ⟨a, ha⟩)
      · intro a' ha'
        rw [hx, (ho a').mpr ha']
        rfl
      · rintro f ⟨hnone, -⟩
        exact absurd ha (hnone a)
  | none =>
      have hnone : ∀ a, ¬ P a := by
        intro a ha
        cases (ho a).mpr ha
      refine .of_cases ?_ ?_ (Or.inr ⟨e, hnone, rfl⟩)
      · intro a ha
        exact absurd ha (hnone a)
      · rintro f ⟨-, rfl⟩
        exact hx

/-- Conditions may be replaced by others that say the same. -/
theorem Decides.congr {x : Except ε α} {P P' : α → Prop} {Q Q' : ε → Prop} (h : Decides x P Q)
    (hP : ∀ a, P a ↔ P' a) (hQ : ∀ e, Q e ↔ Q' e) : Decides x P' Q' :=
  ⟨fun a => (h.ok_iff a).trans (hP a), fun e => (h.error_iff e).trans (hQ e)⟩

/-- A computation behind another one is decided result by result. -/
theorem Decides.bind {x : Except ε α} {f : α → Except ε β} {P : α → Prop} {Q : ε → Prop}
    {P' : α → β → Prop} {Q' : α → ε → Prop} (hx : Decides x P Q)
    (hf : ∀ a, Decides (f a) (P' a) (Q' a)) :
    Decides (x >>= f) (fun b => ∃ a, P a ∧ P' a b) fun e => Q e ∨ ∃ a, P a ∧ Q' a e := by
  constructor
  · intro b
    rw [bind_eq_ok]
    exact exists_congr fun a => and_congr (hx.ok_iff a) ((hf a).ok_iff b)
  · intro e
    rw [bind_eq_error]
    refine or_congr (hx.error_iff e) (exists_congr fun a => ?_)
    exact and_congr (hx.ok_iff a) ((hf a).error_iff e)

/-- What is made of a result is decided by the same conditions. -/
theorem Decides.map {x : Except ε α} {P : α → Prop} {Q : ε → Prop} (h : Decides x P Q) (f : α → β) :
    Decides (x.map f) (fun b => ∃ a, P a ∧ f a = b) Q := by
  constructor
  · intro b
    rw [map_eq_ok]
    exact exists_congr fun a => and_congr_left' (h.ok_iff a)
  · intro e
    rw [map_eq_error]
    exact h.error_iff e

/-- A list of computations gives a list of results, or the fault of the first one that has a
    fault. -/
theorem Decides.mapM {f : α → Except ε β} {P : α → β → Prop} {Q : α → ε → Prop}
    (hf : ∀ a, Decides (f a) (P a) (Q a)) (xs : List α) :
    Decides (xs.mapM f) (List.Forall₂ P xs) fun e =>
      ∃ before x behind, xs = before ++ x :: behind ∧ (∀ y ∈ before, ∃ b, P y b) ∧ Q x e := by
  have hok : ∀ a b, f a = .ok b ↔ P a b := fun a => (hf a).ok_iff
  constructor
  · intro ys
    simp only [mapM_eq_ok, hok]
  · intro e
    simp only [mapM_eq_error, hok, (hf _).error_iff]

end TwoPass
