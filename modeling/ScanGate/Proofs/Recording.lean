import ScanGate.Proofs.Gate.Response

/-! Runs that are written down. Beside its state a run keeps a list of the calls it has made so
far, and some of its steps put themselves on the list. Writing down changes nothing: the run
comes to the same end, and leaves the same state, as without. -/
namespace ScanGate.Recording

open Gate (Gives Fails run_reword)

variable {σ κ α β : Type}

/-- A step that is not written down. -/
def aside (x : StateM σ α) : StateM (σ × List κ) α := fun (s, done) =>
  let (a, s') := x.run s
  (a, s', done)

/-- A step that is. -/
def noted (k : κ) (x : StateM σ α) : StateM (σ × List κ) α := fun (s, done) =>
  let (a, s') := x.run s
  (a, s', done ++ [k])

/-- A step that may fail and is written down in any case. -/
def call (k : κ) (x : ExceptT Failure (StateM σ) α) : ExceptT Failure (StateM (σ × List κ)) α :=
  ExceptT.mk (noted k x.run)

/-- A step that may fail and is written down with its answer. -/
def answered (k : Except Failure α → κ) (x : ExceptT Failure (StateM σ) α) :
    ExceptT Failure (StateM (σ × List κ)) α :=
  ExceptT.mk fun (s, done) =>
    let (a, s') := x.run s
    (a, s', done ++ [k a])

/-- A step that may fail and is not written down. -/
def unnoted (x : ExceptT Failure (StateM σ) α) : ExceptT Failure (StateM (σ × List κ)) α :=
  ExceptT.mk (aside x.run)

/-- The second computation is the first one written down, and what it writes goes with the way in
which it ends. -/
def Traced (T : Except Failure α → List κ → Prop) (x : ExceptT Failure (StateM σ) α)
    (y : ExceptT Failure (StateM (σ × List κ)) α) : Prop :=
  ∀ s done, ∃ ks, T (x.run.run s).1 ks ∧
    y.run.run (s, done) = ((x.run.run s).1, (x.run.run s).2, done ++ ks)

/-- The second computation is the first one written down, and what it writes is as `P` says. -/
def Recorded (P : List κ → Prop) (x : ExceptT Failure (StateM σ) α)
    (y : ExceptT Failure (StateM (σ × List κ)) α) : Prop :=
  ∀ s done, ∃ ks, P ks ∧ y.run.run (s, done) = ((x.run.run s).1, (x.run.run s).2, done ++ ks)

variable {P Q R : List κ → Prop} {T : Except Failure β → List κ → Prop}
  {x : ExceptT Failure (StateM σ) α}
  {y : ExceptT Failure (StateM (σ × List κ)) α} {f : α → ExceptT Failure (StateM σ) β}
  {g : α → ExceptT Failure (StateM (σ × List κ)) β}

theorem Recorded.mono (h : Recorded P x y) (hPQ : ∀ ks, P ks → Q ks) : Recorded Q x y := by
  intro s done
  obtain ⟨ks, hks, hrun⟩ := h s done
  exact ⟨ks, hPQ ks hks, hrun⟩

theorem Recorded.gives {ks : List κ} {done : List κ} {s s' : σ} {a : α}
    (h : Recorded (· = ks) x y) (hx : Gives x s a s') : Gives y (s, done) a (s', done ++ ks) := by
  obtain ⟨_, rfl, hrun⟩ := h s done
  rw [hx] at hrun
  exact hrun

theorem Recorded.fails {ks : List κ} {done : List κ} {s s' : σ} {failure : Failure}
    (h : Recorded (· = ks) x y) (hx : Fails x s failure s') :
    Fails y (s, done) failure (s', done ++ ks) := by
  obtain ⟨_, rfl, hrun⟩ := h s done
  rw [hx] at hrun
  exact hrun

/-! ### Steps -/

theorem traced_mk {r : Except Failure β} (h : T r []) :
    Traced (σ := σ) T (ExceptT.mk (pure r)) (ExceptT.mk (pure r)) := by
  intro s done
  refine ⟨[], h, ?_⟩
  rw [List.append_nil]
  rfl

theorem recorded_mk (r : Except Failure α) :
    Recorded (κ := κ) (σ := σ) (· = []) (ExceptT.mk (pure r)) (ExceptT.mk (pure r)) :=
  traced_mk (T := fun _ ks => ks = []) rfl

theorem recorded_pure (a : α) :
    Recorded (κ := κ) (σ := σ) (· = []) (pure a) (pure a) := recorded_mk (.ok a)

theorem recorded_throw (failure : Failure) :
    Recorded (κ := κ) (σ := σ) (α := α) (· = []) (throw failure) (throw failure) :=
  recorded_mk (.error failure)

theorem recorded_noted (k : κ) (x : StateM σ α) :
    Recorded (σ := σ) (· = [k]) (liftM x) (liftM (noted k x)) := by
  intro s done
  exact ⟨[k], rfl, rfl⟩

theorem recorded_call (k : κ) (x : ExceptT Failure (StateM σ) α) :
    Recorded (· = [k]) x (call k x) := by
  intro s done
  exact ⟨[k], rfl, rfl⟩

theorem recorded_unnoted (x : ExceptT Failure (StateM σ) α) :
    Recorded (κ := κ) (· = []) x (unnoted x) := by
  intro s done
  refine ⟨[], rfl, ?_⟩
  rw [List.append_nil]
  rfl

/-! ### One after the other -/

/-- What the first computation writes has to do alone, since it may fail. -/
theorem Recorded.bind (hx : Recorded P x y) (hf : ∀ a, Recorded Q (f a) (g a))
    (hfails : ∀ ks, P ks → R ks) (hboth : ∀ ks ls, P ks → Q ls → R (ks ++ ls)) :
    Recorded R (x >>= f) (y >>= g) := by
  intro s done
  obtain ⟨ks, hks, hrun⟩ := hx s done
  simp only [ExceptT.run_bind, StateT.run_bind, hrun]
  rcases x.run.run s with ⟨failure | a, s'⟩
  · exact ⟨ks, hfails ks hks, rfl⟩
  · obtain ⟨ls, hls, hrest⟩ := hf a s' (done ++ ks)
    refine ⟨ks ++ ls, hboth ks ls hks hls, ?_⟩
    rw [← List.append_assoc]
    exact hrest

/-- Nothing more is written. -/
theorem Recorded.bind_nil (hx : Recorded P x y) (hf : ∀ a, Recorded (· = []) (f a) (g a)) :
    Recorded P (x >>= f) (y >>= g) := by
  refine hx.bind hf (fun _ h => h) ?_
  rintro ks _ hks rfl
  rwa [List.append_nil]

/-- Nothing is written before. -/
theorem Recorded.nil_bind (hx : Recorded (· = []) x y) (hf : ∀ a, Recorded P (f a) (g a))
    (hnil : P []) : Recorded P (x >>= f) (y >>= g) := by
  refine hx.bind hf ?_ ?_
  · rintro _ rfl
    exact hnil
  · rintro _ ls rfl hls
    exact hls

/-- A step that is not written down and cannot fail may come first. -/
theorem Recorded.aside_bind {z : StateM σ α} (hf : ∀ a, Recorded P (f a) (g a)) :
    Recorded P (liftM z >>= f) (liftM (aside (κ := κ) z) >>= g) := by
  intro s done
  obtain ⟨ks, hks, hrun⟩ := hf (z.run s).1 (z.run s).2 done
  exact ⟨ks, hks, hrun⟩

/-- A step that is written down and cannot fail may come first. -/
theorem Traced.noted_bind {k : κ} {z : StateM σ α}
    (hf : ∀ a, Traced (fun r ks => T r (k :: ks)) (f a) (g a)) :
    Traced T (liftM z >>= f) (liftM (noted k z) >>= g) := by
  intro s done
  obtain ⟨ks, hks, hrun⟩ := hf (z.run s).1 (z.run s).2 (done ++ [k])
  rw [List.append_assoc, List.singleton_append] at hrun
  exact ⟨k :: ks, hks, hrun⟩

theorem Recorded.noted_bind {k : κ} {z : StateM σ α}
    (hf : ∀ a, Recorded (fun ks => P (k :: ks)) (f a) (g a)) :
    Recorded P (liftM z >>= f) (liftM (noted k z) >>= g) :=
  Traced.noted_bind (T := fun _ => P) hf

/-- So may one that is written down with its answer; if it fails, this is the last that is
written. -/
theorem Traced.answered_bind {k : Except Failure α → κ}
    (hfails : ∀ failure, T (.error failure) [k (.error failure)])
    (hf : ∀ a, Traced (fun r ks => T r (k (.ok a) :: ks)) (f a) (g a)) :
    Traced T (x >>= f) (answered k x >>= g) := by
  intro s done
  have hanswered : (answered k x).run.run (s, done) =
      ((x.run.run s).1, (x.run.run s).2, done ++ [k (x.run.run s).1]) := rfl
  obtain ⟨a, s', hx⟩ | ⟨failure, s', hx⟩ := Gate.gives_or_fails x s
  · rw [hx] at hanswered
    obtain ⟨ks, hks, hrun⟩ := hf a s' (done ++ [k (.ok a)])
    rw [List.append_assoc, List.singleton_append] at hrun
    rw [hx.run_bind, Gate.Gives.run_bind hanswered]
    exact ⟨k (.ok a) :: ks, hks, hrun⟩
  · rw [hx] at hanswered
    rw [hx.run_bind, Gate.Fails.run_bind hanswered]
    exact ⟨[k (.error failure)], hfails failure, rfl⟩

theorem recorded_tellAll (say : Message → StateM σ Unit) (messages : List Message) :
    Recorded (κ := κ) (· = []) (Gate.tellAll say messages)
      (Gate.tellAll (fun message => aside (say message)) messages) := by
  induction messages with
  | nil => exact recorded_pure ()
  | cons message rest ih => exact .aside_bind fun _ => ih

theorem recorded_tellAll_noted (say : Message → StateM σ Unit) (messages : List Message) :
    Recorded (· = messages) (Gate.tellAll say messages)
      (Gate.tellAll (fun message => noted message (say message)) messages) := by
  induction messages with
  | nil => exact recorded_pure ()
  | cons message rest ih => exact .noted_bind fun _ => ih.mono fun ms hms => by rw [hms]

theorem Recorded.map (hx : Recorded P x y) (h : α → β) : Recorded P (h <$> x) (h <$> y) := by
  rw [map_eq_pure_bind, map_eq_pure_bind]
  exact hx.bind_nil fun a => recorded_pure (h a)

theorem Recorded.reword (hx : Recorded P x y) (other : Failure → Failure) :
    Recorded P (tryCatch x fun failure => throw (other failure))
      (tryCatch y fun failure => throw (other failure)) := by
  intro s done
  obtain ⟨ks, hks, hrun⟩ := hx s done
  refine ⟨ks, hks, ?_⟩
  rw [run_reword, run_reword, hrun]
  rcases x.run.run s with ⟨_ | a, s'⟩ <;> rfl

/-- What is checked first writes nothing. -/
theorem Recorded.provided {right : Bool} {failure : Failure} (hxy : Recorded P x y)
    (hnil : P []) : Recorded P
      (if !right then do
        throw failure
        x
      else x)
      (if !right then do
        throw failure
        y
      else y) := by
  cases right with
  | true => exact hxy
  | false =>
    exact (recorded_throw failure).mono fun ks hks => by
      subst hks
      exact hnil

end ScanGate.Recording
