import ScanGate.Failure

/-! The end of a run. From a state a run succeeds or fails, and leaves a state; how the parts of
a run end says how the whole does. -/
namespace ScanGate.Gate

variable {σ α β : Type}

/-! ### Runs that succeed -/

/-- From the state `s` the computation succeeds with `a` and leaves `s'`. -/
def Gives (x : ExceptT Failure (StateM σ) α) (s : σ) (a : α) (s' : σ) : Prop :=
  x.run.run s = (.ok a, s')

theorem gives_pure {a b : α} {s s' : σ} : Gives (pure a) s b s' ↔ a = b ∧ s = s' := by
  change (Except.ok a, s) = (Except.ok b, s') ↔ _
  rw [Prod.mk.injEq, Except.ok.injEq]

theorem not_gives_throw {failure : Failure} {s s' : σ} {a : α} :
    ¬ Gives (throw failure : ExceptT Failure (StateM σ) α) s a s' := fun h => nomatch h

theorem gives_except {r : Except Failure α} {s s' : σ} {a : α} :
    Gives (liftM r : ExceptT Failure (StateM σ) α) s a s' ↔ r = .ok a ∧ s = s' := by
  change (r, s) = (Except.ok a, s') ↔ _
  rw [Prod.mk.injEq]

theorem gives_lift {x : StateM σ α} {s s' : σ} {a : α} :
    Gives (liftM x) s a s' ↔ x.run s = (a, s') := by
  change ((Except.ok (x.run s).1 : Except Failure α), (x.run s).2) = (Except.ok a, s') ↔ _
  rw [Prod.mk.injEq, Except.ok.injEq, Prod.ext_iff]

theorem gives_bind {x : ExceptT Failure (StateM σ) α} {f : α → ExceptT Failure (StateM σ) β}
    {s s'' : σ} {b : β} :
    Gives (x >>= f) s b s'' ↔ ∃ a s', Gives x s a s' ∧ Gives (f a) s' b s'' := by
  simp only [Gives, ExceptT.run_bind, StateT.run_bind]
  constructor
  · intro h
    rcases hx : x.run.run s with ⟨r, s'⟩
    rw [hx] at h
    cases r with
    | ok a => exact ⟨a, s', rfl, h⟩
    | error e => cases h
  · rintro ⟨a, s', hx, hf⟩
    rw [hx]
    exact hf

/-- The rest of a run goes on from what a step answers. -/
theorem gives_lift_bind {x : StateM σ α} {f : α → ExceptT Failure (StateM σ) β} {s s' : σ}
    {b : β} : Gives (liftM x >>= f) s b s' ↔
      ∃ a s₁, x.run s = (a, s₁) ∧ Gives (f a) s₁ b s' := by
  simp only [gives_bind, gives_lift]

/-- What succeeds may come first. -/
theorem Gives.andThen {x : ExceptT Failure (StateM σ) α} {f : α → ExceptT Failure (StateM σ) β}
    {s s' : σ} {a : α} {b : β} (hx : Gives x s a s') (hf : ∃ s'', Gives (f a) s' b s'') :
    ∃ s'', Gives (x >>= f) s b s'' := by
  obtain ⟨s'', hf⟩ := hf
  exact ⟨s'', gives_bind.mpr ⟨a, s', hx, hf⟩⟩

/-- So may what is only told. -/
theorem exists_gives_lift_bind {x : StateM σ α} {f : α → ExceptT Failure (StateM σ) β} {s : σ}
    {b : β} (hf : ∃ s', Gives (f (x.run s).1) (x.run s).2 b s') :
    ∃ s', Gives (liftM x >>= f) s b s' :=
  (gives_lift.mpr rfl).andThen hf

/-! ### Runs that fail -/

/-- From the state `s` the computation fails and leaves `s'`. -/
def Fails (x : ExceptT Failure (StateM σ) α) (s : σ) (failure : Failure) (s' : σ) : Prop :=
  x.run.run s = (.error failure, s')

section

variable {x : ExceptT Failure (StateM σ) α} {f : α → ExceptT Failure (StateM σ) β}
  {s s' s'' : σ} {a b : α} {failure : Failure}

theorem Gives.unique (h : Gives x s a s') (h' : Gives x s b s'') : a = b ∧ s' = s'' := by
  have hrun : ((.ok a : Except Failure α), s') = (.ok b, s'') := h.symm.trans h'
  cases hrun
  exact ⟨rfl, rfl⟩

theorem Gives.not_fails (h : Gives x s a s') : ¬ Fails x s failure s'' := by
  intro h'
  cases h.symm.trans h'

theorem gives_or_fails (x : ExceptT Failure (StateM σ) α) (s : σ) :
    (∃ a s', Gives x s a s') ∨ ∃ failure s', Fails x s failure s' := by
  rcases h : x.run.run s with ⟨failure | a, s'⟩
  · exact .inr ⟨failure, s', h⟩
  · exact .inl ⟨a, s', h⟩

theorem fails_bind : Fails (x >>= f) s failure s'' ↔
    Fails x s failure s'' ∨ ∃ a s', Gives x s a s' ∧ Fails (f a) s' failure s'' := by
  simp only [Fails, Gives, ExceptT.run_bind, StateT.run_bind]
  rcases x.run.run s with ⟨other | a, s'⟩
  · constructor
    · intro h
      cases h
      exact .inl rfl
    · rintro (h | ⟨_, _, h, -⟩) <;> cases h
      rfl
  · refine ⟨fun h => .inr ⟨a, s', rfl, h⟩, ?_⟩
    rintro (h | ⟨_, _, h, hf⟩)
    · cases h
    · cases h
      exact hf

/-- After what succeeds a run is the rest of it. -/
theorem Gives.run_bind (h : Gives x s a s') : (x >>= f).run.run s = (f a).run.run s' := by
  simp only [ExceptT.run_bind, StateT.run_bind, show x.run.run s = (.ok a, s') from h]
  rfl

/-- After what fails a run is at its end. -/
theorem Fails.run_bind (h : Fails x s failure s') :
    (x >>= f).run.run s = (.error failure, s') := by
  simp only [ExceptT.run_bind, StateT.run_bind, show x.run.run s = (.error failure, s') from h]
  rfl

theorem not_fails_lift {x : StateM σ α} :
    ¬ Fails (liftM x : ExceptT Failure (StateM σ) α) s failure s' :=
  Gives.not_fails (gives_lift.mpr rfl)

end

/-! ### Steps of a run -/

section

variable {s s' : σ} {a : α}

theorem run_reword (x : ExceptT Failure (StateM σ) α) (other : Failure → Failure)
    (s : σ) : (ExceptT.run (tryCatch x fun failure => throw (other failure))).run s =
      match x.run.run s with
      | (.ok a, s') => (.ok a, s')
      | (.error failure, s') => (.error (other failure), s') := by
  rw [ExceptT.run_tryCatch, StateT.run_bind]
  rcases x.run.run s with ⟨_ | a, s'⟩ <;> rfl

theorem gives_reword {x : ExceptT Failure (StateM σ) α} {other : Failure → Failure} {a : α} :
    Gives (tryCatch x fun failure => throw (other failure)) s a s' ↔ Gives x s a s' := by
  unfold Gives
  rw [run_reword]
  rcases x.run.run s with ⟨failure | b, s₁⟩
  · constructor <;> (intro h; cases h)
  · exact Iff.rfl

theorem fails_reword {x : ExceptT Failure (StateM σ) α} {other : Failure → Failure}
    {failure : Failure}
    (h : Fails (tryCatch x fun cause => throw (other cause)) s failure s') :
    ∃ cause, failure = other cause := by
  unfold Fails at h
  rw [run_reword] at h
  rcases hx : x.run.run s with ⟨cause | b, s₁⟩
  · rw [hx] at h
    cases h
    exact ⟨cause, rfl⟩
  · rw [hx] at h
    cases h

theorem gives_map {x : ExceptT Failure (StateM σ) α} {f : α → β} {b : β} :
    Gives (f <$> x) s b s' ↔ ∃ a, f a = b ∧ Gives x s a s' := by
  rw [map_eq_pure_bind]
  simp only [gives_bind, gives_pure]
  constructor
  · rintro ⟨a, _, hx, rfl, rfl⟩
    exact ⟨a, rfl, hx⟩
  · rintro ⟨a, rfl, hx⟩
    exact ⟨a, s', hx, rfl, rfl⟩

/-- What is checked first has to be right. -/
theorem gives_provided {right : Bool} {failure : Failure} {x : ExceptT Failure (StateM σ) α}
    {a : α} : Gives (if !right then do
        throw failure
        x
      else x) s a s' ↔ right = true ∧ Gives x s a s' := by
  cases right with
  | true => exact ⟨fun h => ⟨rfl, h⟩, fun h => h.2⟩
  | false => exact ⟨fun h => absurd h not_gives_throw, fun h => nomatch h.1⟩

end

end ScanGate.Gate
