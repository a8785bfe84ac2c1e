import ScanGate.Gate
import ScanGate.Proofs.Gate.Ends

/-! What a run of the gate returns. A run passes a state along, whatever it is: each
call may depend on it and change it. The response follows from the waivers that the
source gives when it is asked and from the report that the service gives when it is
asked; what is told on the way has no part in it. -/
namespace ScanGate.Gate

variable {σ α β : Type}

/-! ### Telling -/

section

variable {m : Type → Type} [Monad m]

/-- Tells one thing after the other. -/
def tellAll (say : Message → m Unit) : List Message → ExceptT Failure m Unit
  | [] => return
  | message :: rest => do
    say message
    tellAll say rest

theorem forIn_tell [LawfulMonad m] (say : Message → m Unit) (f : α → Message) (xs : List α) :
    (forIn xs PUnit.unit fun x _ => do
      liftM (say (f x))
      pure (ForInStep.yield PUnit.unit) : ExceptT Failure m PUnit) = tellAll say (xs.map f) := by
  induction xs with
  | nil => rfl
  | cons x xs ih =>
    rw [List.forIn_cons, List.map_cons, tellAll, ← ih]
    simp only [bind_assoc, pure_bind]

end

theorem exists_gives_tellAll (say : Message → StateM σ Unit) (messages : List Message) (s : σ) :
    ∃ s', Gives (tellAll say messages) s () s' := by
  induction messages generalizing s with
  | nil => exact ⟨s, rfl⟩
  | cons message rest ih => exact exists_gives_lift_bind (ih _)

/-- What is only told does not fail, and neither does what is then returned. -/
theorem not_fails_tellAll (say : Message → StateM σ Unit) (messages : List Message) {a : α}
    {s s' : σ} {failure : Failure} :
    ¬ Fails (tellAll say messages >>= fun _ => pure a) s failure s' := by
  obtain ⟨s₁, htell⟩ := exists_gives_tellAll say messages s
  exact Gives.not_fails (gives_bind.mpr ⟨(), s₁, htell, gives_pure.mpr ⟨rfl, rfl⟩⟩)

/-! ### Loading -/

/-- What is told before the source is asked. -/
def loading (source : Source) : Message :=
  .report ("📥 Loading exceptions from " ++ source.text)

/-- What is told once the waivers are there. -/
def loaded (source : Source) (ws : WaiverList) : List Message :=
  .report ("✅ Loaded " ++ toString ws.length ++ " exception(s)") ::
    ws.duplicates.map (duplicateWarning source)

/-- Without a source there is nothing to load. -/
theorem loadWaivers_absent {m : Type → Type} [Monad m]
    (load : Source → ExceptT Failure m WaiverList) (say : Message → m Unit) :
    loadWaivers load say .absent = pure [] := by
  rw [loadWaivers, if_pos rfl]

theorem loadWaivers_eq {m : Type → Type} [Monad m] [LawfulMonad m]
    (load : Source → ExceptT Failure m WaiverList) (say : Message → m Unit) {source : Source}
    (h : source ≠ .absent) : loadWaivers load say source = do
      liftM (say (loading source))
      let ws ← load source
      tellAll say (loaded source ws)
      return ws := by
  rw [loadWaivers, if_neg h]
  simp only [forIn_tell, loaded, tellAll, bind_assoc]
  rfl

variable (load : Source → ExceptT Failure (StateM σ) WaiverList)
  (say : Message → StateM σ Unit)

/-- A run from `s` has these waivers: the source, where there is one, gives them when it
is asked; without a source there are none. -/
def Loads (source : Source) (s : σ) (ws : WaiverList) : Prop :=
  if source = .absent then ws = []
  else ∃ s', Gives (load source) ((say (loading source)).run s).2 ws s'

variable {load say}

theorem loadWaivers_gives {source : Source} {s : σ} {ws : WaiverList}
    (h : Loads load say source s ws) : ∃ s', Gives (loadWaivers load say source) s ws s' := by
  unfold Loads at h
  by_cases ha : source = .absent
  · subst ha
    rw [if_pos rfl] at h
    rw [loadWaivers_absent]
    exact ⟨s, gives_pure.mpr ⟨h.symm, rfl⟩⟩
  · rw [if_neg ha] at h
    rw [loadWaivers_eq load say ha]
    obtain ⟨s₁, hload⟩ := h
    obtain ⟨s₂, htell⟩ := exists_gives_tellAll say (loaded source ws) s₁
    exact exists_gives_lift_bind (hload.andThen (htell.andThen ⟨s₂, gives_pure.mpr ⟨rfl, rfl⟩⟩))

/-! ### Responding -/

/-- What is told before the service is asked. -/
def fetching (product : ProductId) : Message :=
  .waiting ("Fetching BDBA report for product " ++ product.text ++ "...")

/-- A run from `s` gets this report: the service gives it when it is asked, which is after
the waivers are loaded. -/
def Fetches (service : Service (StateM σ)) (load : Source → ExceptT Failure (StateM σ) WaiverList)
    (say : Message → StateM σ Unit) (request : Request) (s : σ) (r : Report) : Prop :=
  ∀ ws s', Gives (loadWaivers load say request.source) s ws s' →
    ∃ s'', Gives (service.report request.product) ((say (fetching request.product)).run s').2 r s''

/-- The response to a report under a list of waivers. Only a report that is ready is
evaluated. -/
def respond (request : Request) (link : String) (r : Report) (ws : WaiverList) : Response :=
  let evaluation := Evaluation.ofComponents r.components request.threshold ws
  { product := request.product, link, status := r.status, verdict := r.verdict
    detail := r.detail, threshold := request.threshold
    evaluation := if r.status = .ready then some evaluation else none
    outcome := .decide r.status r.verdict evaluation request.policy }

/-- What is told once there is a report. -/
def fetched (request : Request) (link : String) (r : Report) (ws : WaiverList) : List Message :=
  .report ("🔗 Report: " ++ link) ::
    if r.status = .ready then
      [.report ("🔍 Evaluating " ++ toString r.components.length ++
        " component(s) at CVSS >= " ++ request.threshold.text ++ "..."),
        summary (.ofComponents r.components request.threshold ws)]
    else [.completion ("⏳ Scan status: " ++ r.status.text)]

/-- A run loads the waivers, asks for the report and responds; what it tells comes in between. -/
theorem run_eq {m : Type → Type} [Monad m] [LawfulMonad m] (service : Service m)
    (load : Source → ExceptT Failure m WaiverList) (say : Message → m Unit) (request : Request) :
    run service load say request = do
      let ws ← loadWaivers load say request.source
      liftM (say (fetching request.product))
      let r ← service.report request.product
      tellAll say (fetched request (service.link request.product) r ws)
      return respond request (service.link request.product) r ws := by
  unfold run
  refine bind_congr fun ws => bind_congr fun _ => bind_congr fun r => ?_
  obtain ⟨status, verdict, detail, components⟩ := r
  cases status with
  | ready =>
    simp only [fetched, if_true, tellAll, bind_assoc, pure_bind]
    rfl
  | _ =>
    simp only [fetched, reduceCtorEq, if_false, tellAll, bind_assoc, pure_bind]
    rfl

theorem run_gives {service : Service (StateM σ)} {request : Request} {s : σ} {ws : WaiverList}
    {r : Report} (hload : Loads load say request.source s ws)
    (hfetch : Fetches service load say request s r) :
    ∃ s', Gives (run service load say request) s
      (respond request (service.link request.product) r ws) s' := by
  obtain ⟨s₁, hload⟩ := loadWaivers_gives hload
  obtain ⟨s₂, hreport⟩ := hfetch ws s₁ hload
  obtain ⟨s₃, htell⟩ := exists_gives_tellAll say
    (fetched request (service.link request.product) r ws) s₂
  rw [run_eq]
  exact hload.andThen (exists_gives_lift_bind (hreport.andThen
    (htell.andThen ⟨s₃, gives_pure.mpr ⟨rfl, rfl⟩⟩)))

end ScanGate.Gate
