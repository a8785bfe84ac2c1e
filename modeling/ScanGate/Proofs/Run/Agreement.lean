import Mathlib.Data.List.Forall2
import ScanGate.Proofs.Run.Mirror
import ScanGate.Proofs.Run.Writing

/-! Two computations that cannot be told apart but by what they send. From worlds that differ
only in the requests seen so far they come to the same end, and leave worlds that differ only
in the requests; those of the one and of the other are related in order, each to its twin. What
sends nothing agrees with itself, whatever the relation. -/
namespace ScanGate.Run

/-- The worlds differ in the requests alone. After the old ones, each request of the one has its
twin in the other. -/
structure Twins (R : Request → Request → Prop) (old : List Request) (w w' : World) : Prop where
  requests : ∃ rs rs', w.requests = old ++ rs ∧ w'.requests = old ++ rs' ∧ List.Forall₂ R rs rs'
  same : w' = { w with requests := w'.requests }

/-- The computations come to the same end, and their requests are twins. -/
def Agree {α : Type} (R : Request → Request → Prop) (x y : ExceptT Failure (StateM World) α) :
    Prop :=
  ∀ old w w', Twins R old w w' → (x.run.run w).1 = (y.run.run w').1 ∧
    Twins R old (x.run.run w).2 (y.run.run w').2

variable {α β : Type} {R : Request → Request → Prop} {old : List Request} {w w' : World}
  {x y : ExceptT Failure (StateM World) α} {f g : α → ExceptT Failure (StateM World) β}

theorem Twins.refl (R : Request → Request → Prop) (w : World) : Twins R w.requests w w where
  requests := ⟨[], [], (List.append_nil _).symm, (List.append_nil _).symm, .nil⟩
  same := rfl

theorem Twins.mono {R S : Request → Request → Prop} {old : List Request} {w w' : World}
    (h : Twins R old w w') (hRS : ∀ q q', R q q' → S q q') : Twins S old w w' := by
  obtain ⟨⟨rs, rs', hrs, hrs', htwins⟩, hsame⟩ := h
  exact ⟨⟨rs, rs', hrs, hrs', htwins.imp hRS⟩, hsame⟩

/-! ### One after the other -/

theorem agree_pure (a : α) : Agree R (pure a) (pure a) := fun _ => inStep_pure a

theorem agree_throw (failure : Failure) : Agree (α := α) R (throw failure) (throw failure) :=
  fun _ => inStep_throw failure

theorem Agree.bind (hx : Agree R x y) (hf : ∀ a, Agree R (f a) (g a)) :
    Agree R (x >>= f) (y >>= g) := fun old => InStep.bind (hx old) fun a => hf a old

/-! ### What sends nothing -/

/-- If no requests are twins, none are sent. -/
theorem Agree.requests_eq (h : Agree (fun _ _ => False) x x) (w : World) :
    (x.run.run w).2.requests = w.requests := by
  obtain ⟨-, ⟨rs, rs', hrs, -, htwins⟩, -⟩ := h _ _ _ (Twins.refl _ w)
  cases htwins with
  | nil => exact hrs.trans (List.append_nil _)
  | cons h _ => exact h.elim

/-- What is done has nothing to do with the requests seen so far, and adds none. -/
def Unsent (x : StateM World α) : Prop :=
  ∀ w rs, x.run { w with requests := rs } = ((x.run w).1, { (x.run w).2 with requests := rs })

theorem Unsent.requests_eq {x : StateM World α} (hx : Unsent x) (w : World) :
    (x.run w).2.requests = w.requests := by
  have hw := congrArg (·.2.requests) (hx w w.requests)
  exact hw

theorem Unsent.agree {x : StateM World α} (hx : Unsent x) :
    Agree R (liftM x) (liftM x) := by
  intro old w w' h
  change Except.ok (x.run w).1 = Except.ok (x.run w').1 ∧ Twins R old (x.run w).2 (x.run w').2
  have hw' : x.run w' = ((x.run w).1, { (x.run w).2 with requests := w'.requests }) := by
    rw [h.same]
    exact hx w w'.requests
  rw [hw']
  refine ⟨rfl, ?_, rfl⟩
  rw [hx.requests_eq]
  exact h.requests

theorem unsent_inspect (path : String) : Unsent (World.system.inspect path) := fun _ _ => rfl

theorem unsent_exists (path : String) : Unsent (World.system.exists? path) := fun _ _ => rfl

theorem unsent_read (path : String) : Unsent (World.system.read path) := fun _ _ => rfl

theorem unsent_lookup (name : String) : Unsent (World.system.lookup? name) := fun _ _ => rfl

theorem unsent_output (text : String) : Unsent (World.system.output text) := fun _ _ => rfl

theorem unsent_error (text : String) : Unsent (World.system.error text) := fun _ _ => rfl

theorem unsent_tell (colored : Bool) (message : Message) :
    Unsent (tell World.system colored message) := unsent_error _

theorem unsent_write (path : String) (data : ByteArray) :
    Unsent (World.system.write path data) := by
  intro w rs
  change (World.write path data).run { w with requests := rs } =
    (((World.write path data).run w).1, { ((World.write path data).run w).2 with requests := rs })
  cases h : w.tree.write path data with
  | ok t' =>
    have hother : ({ w with requests := rs } : World).tree.write path data = .ok t' := h
    rw [write_ok h, write_ok hother]
  | error err =>
    have hother : ({ w with requests := rs } : World).tree.write path data = .error err := h
    rw [write_error h, write_error hother]

/-! ### What is sent -/

/-- Requests to the same address, with the same care for the connection, get the same answer. -/
theorem agree_send {q q' : Request} (hq : R q q') (hurl : q'.url = q.url)
    (hverified : q'.verified = q.verified) :
    Agree R (liftM (World.system.send q)) (liftM (World.system.send q')) := by
  intro old w w' h
  change Except.ok ((World.send q).run w).1 = Except.ok ((World.send q').run w').1 ∧
    Twins R old ((World.send q).run w).2 ((World.send q').run w').2
  obtain ⟨⟨rs, rs', hrs, hrs', htwins⟩, hsame⟩ := h
  have hopens : w'.surroundings.opens q' = w.surroundings.opens q := by
    rw [Surroundings.opens, Surroundings.opens, hurl, hverified, hsame]
    rfl
  have hreplies : w'.replies = w.replies := by rw [hsame]
  have hnext : ∃ rs₁ rs₁', w.requests ++ [q] = old ++ rs₁ ∧ w'.requests ++ [q'] = old ++ rs₁' ∧
      List.Forall₂ R rs₁ rs₁' :=
    ⟨rs ++ [q], rs' ++ [q'], by rw [hrs, List.append_assoc], by rw [hrs', List.append_assoc],
      List.rel_append htwins (.cons hq .nil)⟩
  cases ho : w.surroundings.opens q with
  | false =>
    rw [send_silent ho, send_silent (hopens.trans ho)]
    exact ⟨rfl, ⟨rs, rs', hrs, hrs', htwins⟩, hsame⟩
  | true =>
    cases hr : w.replies with
    | nil =>
      rw [send_unanswered ho hr, send_unanswered (hopens.trans ho) (hreplies.trans hr)]
      refine ⟨rfl, hnext, ?_⟩
      rw [hsame]
    | cons reply rest =>
      rw [send_answered ho hr, send_answered (hopens.trans ho) (hreplies.trans hr)]
      refine ⟨rfl, hnext, ?_⟩
      rw [hsame]

/-! ### What a command does but send -/

/-- Nothing a system does has to do with the requests seen so far, but for what it sends. -/
theorem mirrors_world (old : List Request) : Mirrors (Twins R old) World.system World.system where
  lookup name := (unsent_lookup name).agree old
  inspect path := (unsent_inspect path).agree old
  exists? path := (unsent_exists path).agree old
  read path := (unsent_read path).agree old
  write path data := (unsent_write path data).agree old
  output text := (unsent_output text).agree old
  error text := (unsent_error text).agree old

section

variable {path : String} {colored : Bool}

/-- Nothing is sent before there is a client. -/
theorem agree_prepare (c : CommandLine.Connection) :
    Agree R (prepare World.system (tell World.system colored) c)
      (prepare World.system (tell World.system colored) c) :=
  fun old => inStep_prepare (mirrors_world old).toReflects c

theorem agree_chooseProduct (product : CommandLine.Product) :
    Agree R (chooseProduct World.system product) (chooseProduct World.system product) :=
  fun old => inStep_chooseProduct (mirrors_world old).toReflects product

theorem agree_writeBytes (data : ByteArray) : Agree R (Files.writeBytes World.system path data)
    (Files.writeBytes World.system path data) :=
  fun old => inStep_writeBytes (mirrors_world old) data

theorem agree_present (content : String) : Agree R (Files.present World.system path content)
    (Files.present World.system path content) :=
  fun old => inStep_present (mirrors_world old) content

end

end ScanGate.Run
