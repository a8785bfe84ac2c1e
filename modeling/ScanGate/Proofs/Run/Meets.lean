import ScanGate.Proofs.Gate.Response
import ScanGate.Run

/-! Steps of a run, each by what it needs and what it leaves. A run learns from the files,
the variables and the answers of the network, its surroundings; what it sends and what it
tells have no part in what it does next. A step is described by the surroundings before, its
result and the surroundings after, and it writes nothing to the output stream whether it
succeeds or fails. -/
namespace ScanGate

open Gate (Gives gives_pure gives_lift gives_bind run_reword)

/-- What a run can learn from the world. -/
structure Surroundings where
  tree : Tree
  environment : List (String × String)
  connected : Bool
  trusted : Bool
  replies : List Reply

namespace Surroundings

def lookup? (e : Surroundings) (name : String) : Option String :=
  (e.environment.find? (·.1 == name)).map (·.2)

/-- Whether a connection for this request opens. -/
def opens (e : Surroundings) (request : Request) : Bool :=
  e.connected && (e.trusted || !request.verified || request.url.scheme != "https")

/-- What comes back for a request: the next answer, or nothing if none is left or no
connection opens. -/
inductive Sends (e : Surroundings) (request : Request) : Reply → Surroundings → Prop
  | answered {reply : Reply} {rest : List Reply} (connection : e.opens request = true)
      (first : e.replies = reply :: rest) : Sends e request reply { e with replies := rest }
  | silent (h : e.opens request = true → e.replies = []) : Sends e request .unreachable e

/-- The request is answered in full with a status of 200 to 299. -/
inductive Answers (e : Surroundings) (request : Request) (body : Body) :
    Surroundings → Prop
  | mk {code : Nat} {rest : List Reply} (connection : e.opens request = true)
      (reply : e.replies = .answered code body true :: rest) (low : 200 ≤ code)
      (high : code < 300) : Answers e request body { e with replies := rest }

end Surroundings

def World.surroundings (w : World) : Surroundings where
  tree := w.tree
  environment := w.environment
  connected := w.connected
  trusted := w.trusted
  replies := w.replies

namespace Run

variable {α β : Type} {e : Surroundings}

/-- The computation writes nothing to the output stream. It succeeds exactly as `P` says. -/
structure Meets (x : ExceptT Failure (StateM World) α)
    (P : Surroundings → α → Surroundings → Prop) : Prop where
  quiet : ∀ w, (x.run.run w).2.output = w.output
  gives : ∀ w a e, (∃ w', Gives x w a w' ∧ w'.surroundings = e) ↔ P w.surroundings a e

/-- The computation only looks at its surroundings, and succeeds exactly as `Q` says. -/
abbrev Looks (x : ExceptT Failure (StateM World) α) (Q : Surroundings → α → Prop) : Prop :=
  Meets x fun e a e' => Q e a ∧ e' = e

variable {x : ExceptT Failure (StateM World) α} {f : α → ExceptT Failure (StateM World) β}
  {P P' : Surroundings → α → Surroundings → Prop} {Q Q' : Surroundings → α → Prop}

theorem Meets.run_ok (hx : Meets x P) {w : World} {a : α} (h : P w.surroundings a e) :
    ∃ w', x.run.run w = (.ok a, w') ∧ w'.surroundings = e ∧ w'.output = w.output := by
  obtain ⟨w', hgives, hw'⟩ := (hx.gives w a e).mpr h
  have hrun : x.run.run w = (.ok a, w') := hgives
  have hquiet := hx.quiet w
  rw [hrun] at hquiet
  exact ⟨w', hrun, hw', hquiet⟩

theorem Meets.run_cases (hx : Meets x P) (w : World) :
    (∃ failure w', x.run.run w = (.error failure, w') ∧ w'.output = w.output) ∨
      ∃ a w', x.run.run w = (.ok a, w') ∧ P w.surroundings a w'.surroundings ∧
        w'.output = w.output := by
  have hquiet := hx.quiet w
  rcases hrun : x.run.run w with ⟨failure | a, w'⟩
  · rw [hrun] at hquiet
    exact .inl ⟨failure, w', rfl, hquiet⟩
  · rw [hrun] at hquiet
    exact .inr ⟨a, w', rfl, (hx.gives w a _).mp ⟨w', hrun, rfl⟩, hquiet⟩

/-! ### One after the other -/

theorem Meets.congr (hx : Meets x P) (h : ∀ e a e', P e a e' ↔ P' e a e') : Meets x P' :=
  ⟨hx.quiet, fun w a e => (hx.gives w a e).trans (h _ _ _)⟩

theorem Looks.congr (hx : Looks x Q) (h : ∀ e a, Q e a ↔ Q' e a) : Looks x Q' :=
  Meets.congr hx fun e a _ => and_congr_left fun _ => h e a

theorem Meets.bind {R : α → Surroundings → β → Surroundings → Prop} (hx : Meets x P)
    (hf : ∀ a, Meets (f a) (R a)) :
    Meets (x >>= f) fun e b e' => ∃ a e₁, P e a e₁ ∧ R a e₁ b e' where
  quiet w := by
    have hquiet := hx.quiet w
    rw [ExceptT.run_bind, StateT.run_bind]
    rcases hr : x.run.run w with ⟨r, w'⟩
    rw [hr] at hquiet
    cases r with
    | ok a => exact ((hf a).quiet w').trans hquiet
    | error _ => exact hquiet
  gives w b e := by
    constructor
    · rintro ⟨w', hgives, rfl⟩
      obtain ⟨a, w₁, ha, hb⟩ := gives_bind.mp hgives
      exact ⟨a, w₁.surroundings, (hx.gives _ _ _).mp ⟨w₁, ha, rfl⟩,
        ((hf a).gives _ _ _).mp ⟨w', hb, rfl⟩⟩
    · rintro ⟨a, e₁, ha, hb⟩
      obtain ⟨w₁, hx', rfl⟩ := (hx.gives _ _ _).mpr ha
      obtain ⟨w', hf', rfl⟩ := ((hf a).gives _ _ _).mpr hb
      exact ⟨w', gives_bind.mpr ⟨a, w₁, hx', hf'⟩, rfl⟩

theorem looks_pure (a : α) : Looks (pure a) fun _ b => b = a where
  quiet _ := rfl
  gives w b e := by
    simp only [gives_pure]
    constructor
    · rintro ⟨_, ⟨rfl, rfl⟩, rfl⟩
      exact ⟨rfl, rfl⟩
    · rintro ⟨rfl, rfl⟩
      exact ⟨w, ⟨rfl, rfl⟩, rfl⟩

theorem meets_throw (failure : Failure) :
    Meets (throw failure : ExceptT Failure (StateM World) α) fun _ _ _ => False where
  quiet _ := rfl
  gives w a e := by
    refine ⟨?_, False.elim⟩
    rintro ⟨_, h, -⟩
    cases h

theorem looks_throw (failure : Failure) :
    Looks (throw failure : ExceptT Failure (StateM World) α) fun _ _ => False :=
  (meets_throw failure).congr fun _ _ _ => by simp

/-- A result that is there already. -/
theorem looks_except (r : Except Failure α) :
    Looks (liftM r : ExceptT Failure (StateM World) α) fun _ a => r = .ok a := by
  cases r with
  | ok a => exact (looks_pure a).congr fun _ b => by simp only [Except.ok.injEq, eq_comm]
  | error failure => exact (looks_throw failure).congr fun _ _ => by simp

/-- What only looks may come first. -/
theorem Meets.look_bind {R : α → Surroundings → β → Surroundings → Prop} (hx : Looks x Q)
    (hf : ∀ a, Meets (f a) (R a)) : Meets (x >>= f) fun e b e' => ∃ a, Q e a ∧ R a e b e' :=
  (hx.bind hf).congr fun e b e' => by simp only [and_assoc, exists_eq_left, exists_and_left]

theorem Looks.bind {S : α → Surroundings → β → Prop} (hx : Looks x Q)
    (hf : ∀ a, Looks (f a) (S a)) : Looks (x >>= f) fun e b => ∃ a, Q e a ∧ S a e b :=
  Meets.congr (hx.look_bind hf) fun e b e' => by simp only [← and_assoc, exists_and_right]

theorem Meets.map (hx : Meets x P) (g : α → β) :
    Meets (g <$> x) fun e b e' => ∃ a, P e a e' ∧ b = g a := by
  rw [map_eq_pure_bind]
  refine (hx.bind fun a => looks_pure (g a)).congr fun e b e' => exists_congr fun a => ?_
  simp only [← and_assoc, exists_eq_right']

/-! ### Looking and telling -/

/-- What is read off the surroundings. -/
theorem looks_of_run {x : StateM World α} {g : Surroundings → α}
    (hx : ∀ w, x.run w = (g w.surroundings, w)) :
    Looks (liftM x : ExceptT Failure (StateM World) α) fun e a => a = g e := by
  constructor
  · intro w
    change (x.run w).2.output = w.output
    rw [hx]
  · intro w a e
    simp only [gives_lift, hx]
    constructor
    · rintro ⟨_, h, rfl⟩
      cases h
      exact ⟨rfl, rfl⟩
    · rintro ⟨rfl, rfl⟩
      exact ⟨w, rfl, rfl⟩

/-- What is read off the surroundings may come first. -/
theorem Looks.of_run {x : StateM World α} {g : Surroundings → α}
    {S : α → Surroundings → β → Prop} (hx : ∀ w, x.run w = (g w.surroundings, w))
    (hf : ∀ a, Looks (f a) (S a)) : Looks (liftM x >>= f) fun e b => S (g e) e b :=
  ((looks_of_run hx).bind hf).congr fun _ _ => by simp only [exists_eq_left]

/-- What goes to the error stream leaves the surroundings as they are. -/
theorem looks_error (text : String) :
    Looks (liftM (World.system.error text) : ExceptT Failure (StateM World) Unit)
      fun _ _ => True where
  quiet _ := rfl
  gives w a e := by
    constructor
    · rintro ⟨_, h, rfl⟩
      cases h
      exact ⟨trivial, rfl⟩
    · rintro ⟨-, rfl⟩
      exact ⟨_, rfl, rfl⟩

theorem looks_tell (colored : Bool) (message : Message) :
    Looks (liftM (Run.tell World.system colored message) : ExceptT Failure (StateM World) Unit)
      fun _ _ => True := looks_error _

/-! ### Failures -/

/-- What is checked first has to be so. -/
theorem Meets.provided {right : Bool} {failure : Failure} (hx : Meets x P) :
    Meets (if !right then do
      throw failure
      x
    else x) fun e a e' => right = true ∧ P e a e' := by
  cases right with
  | true => exact hx.congr fun _ _ _ => by simp
  | false =>
    exact (meets_throw failure).congr fun _ _ _ => by simp

theorem run_bind_error {x : ExceptT Failure (StateM World) α}
    {f : α → ExceptT Failure (StateM World) β} {w w' : World} {failure : Failure}
    (hx : x.run.run w = (.error failure, w')) : (x >>= f).run.run w = (.error failure, w') := by
  rw [ExceptT.run_bind, StateT.run_bind, hx]
  rfl

/-- A failure in other words is a failure. -/
theorem Meets.reword (hx : Meets x P) (other : Failure → Failure) :
    Meets (tryCatch x fun failure => throw (other failure)) P := by
  constructor
  · intro w
    rw [run_reword, ← hx.quiet w]
    rcases x.run.run w with ⟨_ | a, w'⟩ <;> rfl
  · intro w a e
    rw [← hx.gives]
    refine exists_congr fun w' => and_congr_left fun _ => ?_
    unfold Gives
    rw [run_reword]
    rcases x.run.run w with ⟨_ | a, w'⟩
    · constructor <;> (intro h; cases h)
    · exact Iff.rfl

/-! ### Sending -/

theorem send_silent {w : World} {request : Request} (h : w.surroundings.opens request = false) :
    (World.send request).run w = (.unreachable, w) := by
  have h : w.opens request = false := h
  change (World.send request w : Reply × World) = _
  rw [World.send, h, if_neg Bool.false_ne_true]

theorem send_unanswered {w : World} {request : Request} (h : w.surroundings.opens request = true)
    (hr : w.replies = []) : (World.send request).run w =
      (.unreachable, { w with requests := w.requests ++ [request] }) := by
  have h : w.opens request = true := h
  change (World.send request w : Reply × World) = _
  rw [World.send, if_pos h]
  simp only [hr]

theorem send_answered {w : World} {request : Request} {reply : Reply} {rest : List Reply}
    (h : w.surroundings.opens request = true) (hr : w.replies = reply :: rest) :
    (World.send request).run w =
      (reply, { w with requests := w.requests ++ [request], replies := rest }) := by
  have h : w.opens request = true := h
  change (World.send request w : Reply × World) = _
  rw [World.send, if_pos h]
  simp only [hr]

theorem meets_send (request : Request) :
    Meets (liftM (World.send request) : ExceptT Failure (StateM World) Reply)
      fun e reply e' => e.Sends request reply e' := by
  constructor
  · intro w
    change ((World.send request).run w).2.output = w.output
    cases h : w.surroundings.opens request with
    | false => rw [send_silent h]
    | true =>
      cases hr : w.replies with
      | nil => rw [send_unanswered h hr]
      | cons reply rest => rw [send_answered h hr]
  · intro w reply e
    simp only [gives_lift]
    constructor
    · rintro ⟨w', hw', rfl⟩
      cases h : w.surroundings.opens request with
      | false =>
        rw [send_silent h] at hw'
        cases hw'
        exact .silent fun h' => absurd (h.symm.trans h') (by decide)
      | true =>
        cases hr : w.replies with
        | nil =>
          rw [send_unanswered h hr] at hw'
          cases hw'
          exact .silent fun _ => hr
        | cons first rest =>
          rw [send_answered h hr] at hw'
          cases hw'
          exact .answered h hr
    · intro h
      cases h with
      | answered h hr => exact ⟨_, send_answered h hr, rfl⟩
      | silent hnone =>
        cases h : w.surroundings.opens request with
        | false => exact ⟨_, send_silent h, rfl⟩
        | true => exact ⟨_, send_unanswered h (hnone h), rfl⟩

/-! ### Writing -/

theorem write_ok {w : World} {path : String} {data : ByteArray} {t' : Tree}
    (h : w.tree.write path data = .ok t') :
    (World.write path data).run w = (.ok (), { w with tree := t' }) := by
  change (World.write path data w : Except OsError Unit × World) = _
  simp only [World.write, h]

theorem write_error {w : World} {path : String} {data : ByteArray} {err : OsError}
    (h : w.tree.write path data = .error err) :
    (World.write path data).run w = (.error err, w) := by
  change (World.write path data w : Except OsError Unit × World) = _
  simp only [World.write, h]

/-- Writing changes the tree and nothing else. -/
theorem meets_write (path : String) (data : ByteArray) :
    Meets (liftM (World.write path data) : ExceptT Failure (StateM World) (Except OsError Unit))
      fun e r e' => (∃ t', e.tree.write path data = .ok t' ∧ r = .ok () ∧
        e' = { e with tree := t' }) ∨ ∃ err, e.tree.write path data = .error err ∧
        r = .error err ∧ e' = e := by
  constructor
  · intro w
    change ((World.write path data).run w).2.output = w.output
    cases h : w.tree.write path data with
    | ok t' => rw [write_ok h]
    | error err => rw [write_error h]
  · intro w r e
    simp only [gives_lift]
    constructor
    · rintro ⟨w', hw', rfl⟩
      cases h : w.tree.write path data with
      | ok t' =>
        rw [write_ok h] at hw'
        cases hw'
        exact .inl ⟨t', h, rfl, rfl⟩
      | error err =>
        rw [write_error h] at hw'
        cases hw'
        exact .inr ⟨err, h, rfl, rfl⟩
    · rintro (⟨t', h, rfl, rfl⟩ | ⟨err, h, rfl, rfl⟩)
      · exact ⟨_, write_ok h, rfl⟩
      · exact ⟨_, write_error h, rfl⟩

/-- What cannot be written is a failure. -/
theorem meets_write_bind {path : String} {data : ByteArray}
    {f : Except OsError Unit → ExceptT Failure (StateM World) Unit}
    (hok : Looks (f (.ok ())) fun _ _ => True)
    (herror : ∀ err, Looks (f (.error err)) fun _ _ => False) :
    Meets (liftM (World.write path data) >>= f) fun e _ e' =>
      ∃ t', e.tree.write path data = .ok t' ∧ e' = { e with tree := t' } := by
  refine ((meets_write path data).bind (R := fun r e _ e' => r = .ok () ∧ e' = e)
    fun r => ?_).congr fun e _ e' => ⟨?_, ?_⟩
  · cases r with
    | ok => exact Meets.congr hok fun _ _ _ => by simp
    | error err => exact Meets.congr (herror err) fun _ _ _ => by simp
  · rintro ⟨_, _, ⟨t', h, -, rfl⟩ | ⟨_, -, rfl, -⟩, hr, rfl⟩
    · exact ⟨t', h, rfl⟩
    · cases hr
  · rintro ⟨t', h, rfl⟩
    exact ⟨_, _, .inl ⟨t', h, rfl, rfl⟩, rfl, rfl⟩

end Run

end ScanGate
