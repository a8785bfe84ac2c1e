import ScanGate.Proofs.Decision
import ScanGate.Proofs.Recording

/-! The calls of a run. A run loads the waivers if there is a source, and then asks the service
once, for the report of the product; all else it does is to tell about it. A run that fails has
the failure of the call that failed, as it came. A run that does not has the outcome of the
whole table, though a report that is not ready is never evaluated. -/
namespace ScanGate.Gate

open Recording

variable {σ α β : Type}

/-! ### Loading and asking -/

section

variable {service : Service (StateM σ)} {load : Source → ExceptT Failure (StateM σ) WaiverList}
  {say : Message → StateM σ Unit} {source : Source} {request : Request} {s s' : σ}
  {ws : WaiverList} {r : Report} {response : Response} {failure : Failure}

theorem loads_of_gives (h : Gives (loadWaivers load say source) s ws s') :
    Loads load say source s ws := by
  unfold Loads
  by_cases ha : source = .absent
  · subst ha
    rw [loadWaivers_absent] at h
    rw [if_pos rfl]
    exact (gives_pure.mp h).1.symm
  · rw [loadWaivers_eq load say ha] at h
    rw [if_neg ha]
    obtain ⟨_, s₁, htell, h⟩ := gives_bind.mp h
    obtain ⟨ws', s₂, hload, h⟩ := gives_bind.mp h
    obtain ⟨_, s₃, -, h⟩ := gives_bind.mp h
    obtain ⟨rfl, -⟩ := gives_pure.mp h
    rw [gives_lift] at htell
    rw [htell]
    exact ⟨s₂, hload⟩

/-- Only the source can fail. -/
theorem fails_loadWaivers (h : Fails (loadWaivers load say source) s failure s') :
    source ≠ .absent ∧ ∃ s₁, Fails (load source) ((say (loading source)).run s).2 failure s₁ := by
  by_cases ha : source = .absent
  · subst ha
    rw [loadWaivers_absent] at h
    cases h
  · refine ⟨ha, ?_⟩
    rw [loadWaivers_eq load say ha] at h
    obtain h | ⟨_, s₁, htell, h⟩ := fails_bind.mp h
    · exact absurd h not_fails_lift
    obtain h | ⟨ws, s₂, -, h⟩ := fails_bind.mp h
    · rw [gives_lift] at htell
      rw [htell]
      exact ⟨_, h⟩
    exact absurd h (not_fails_tellAll say _)

/-- What is left of a run once the waivers are loaded. -/
def ask {m : Type → Type} [Monad m] (service : Service m) (say : Message → m Unit)
    (request : Request) (ws : WaiverList) : ExceptT Failure m Response := do
  liftM (say (fetching request.product))
  let r ← service.report request.product
  tellAll say (fetched request (service.link request.product) r ws)
  return respond request (service.link request.product) r ws

/-- The service gives the report, or fails to, when it is asked in the state `s`. -/
def Answers (service : Service (StateM σ)) (say : Message → StateM σ Unit) (product : ProductId)
    (s : σ) (answer : Except Failure Report) : Prop :=
  ((service.report product).run.run ((say (fetching product)).run s).2).1 = answer

/-- It does so in a run from `s` that has loaded the waivers `ws`. -/
def Asks (service : Service (StateM σ)) (load : Source → ExceptT Failure (StateM σ) WaiverList)
    (say : Message → StateM σ Unit) (request : Request) (s : σ) (ws : WaiverList)
    (answer : Except Failure Report) : Prop :=
  ∃ s₁, Gives (loadWaivers load say request.source) s ws s₁ ∧
    Answers service say request.product s₁ answer

/-- A run asks once. -/
theorem Asks.unique {ws' : WaiverList} {answer answer' : Except Failure Report}
    (h : Asks service load say request s ws answer)
    (h' : Asks service load say request s ws' answer') : ws = ws' ∧ answer = answer' := by
  obtain ⟨s₁, hws, hanswer⟩ := h
  obtain ⟨s₁', hws', hanswer'⟩ := h'
  obtain ⟨rfl, rfl⟩ := hws.unique hws'
  exact ⟨rfl, hanswer.symm.trans hanswer'⟩

theorem run_eq_ask {m : Type → Type} [Monad m] [LawfulMonad m] (service : Service m)
    (load : Source → ExceptT Failure m WaiverList) (say : Message → m Unit) (request : Request) :
    run service load say request =
      loadWaivers load say request.source >>= ask service say request :=
  run_eq service load say request

theorem answers_of_gives (h : Gives (ask service say request ws) s response s') :
    ∃ r, Answers service say request.product s (.ok r) ∧
      response = respond request (service.link request.product) r ws := by
  obtain ⟨_, s₁, htell, h⟩ := gives_bind.mp h
  obtain ⟨r, s₂, hreport, h⟩ := gives_bind.mp h
  obtain ⟨_, s₃, -, h⟩ := gives_bind.mp h
  obtain ⟨rfl, -⟩ := gives_pure.mp h
  rw [gives_lift] at htell
  refine ⟨r, ?_, rfl⟩
  rw [Answers, htell, hreport]

/-- Once the waivers are loaded, only the service can fail. -/
theorem answers_of_fails (h : Fails (ask service say request ws) s failure s') :
    Answers service say request.product s (.error failure) := by
  obtain h | ⟨_, s₁, htell, h⟩ := fails_bind.mp h
  · exact absurd h not_fails_lift
  obtain h | ⟨r, s₂, -, h⟩ := fails_bind.mp h
  · rw [gives_lift] at htell
    rw [Answers, htell, h]
  exact absurd h (not_fails_tellAll say _)

end

/-! ### The calls -/

/-- What a run may ask of the world, the source or the service. -/
inductive Call where
  | load (source : Source)
  | submit (target : Target) (group : String)
  | report (product : ProductId)
  | pdf (product : ProductId)
  deriving DecidableEq

/-- The service with its calls written down. -/
def notedService (service : Service (StateM σ)) : Service (StateM (σ × List Call)) where
  submit target group := call (.submit target group) (service.submit target group)
  report product := call (.report product) (service.report product)
  pdf product := call (.pdf product) (service.pdf product)
  link := service.link

/-- A run with its calls written down. -/
def notedRun (service : Service (StateM σ)) (load : Source → ExceptT Failure (StateM σ) WaiverList)
    (say : Message → StateM σ Unit) (request : Request) :
    ExceptT Failure (StateM (σ × List Call)) Response :=
  run (notedService service) (fun source => call (.load source) (load source))
    (fun message => aside (say message)) request

/-- A source is loaded once, if there is one. -/
def consulted (source : Source) : List Call :=
  if source = .absent then [] else [.load source]

theorem recorded_loadWaivers (load : Source → ExceptT Failure (StateM σ) WaiverList)
    (say : Message → StateM σ Unit) (source : Source) :
    Recorded (· = consulted source) (loadWaivers load say source)
      (loadWaivers (fun source => call (.load source) (load source))
        (fun message => aside (say message)) source) := by
  by_cases ha : source = .absent
  · subst ha
    rw [loadWaivers_absent, loadWaivers_absent]
    exact recorded_pure []
  · rw [loadWaivers_eq _ _ ha, loadWaivers_eq _ _ ha, consulted, if_neg ha]
    exact .aside_bind fun _ => (recorded_call _ _).bind_nil fun ws =>
      (recorded_tellAll say _).bind_nil fun _ => recorded_pure ws

theorem recorded_ask (service : Service (StateM σ)) (say : Message → StateM σ Unit)
    (request : Request) (ws : WaiverList) :
    Recorded (· = [.report request.product]) (ask service say request ws)
      (ask (notedService service) (fun message => aside (say message)) request ws) :=
  .aside_bind fun _ => (recorded_call _ _).bind_nil fun _ =>
    (recorded_tellAll say _).bind_nil fun _ => recorded_pure _

/-! ### The outcome of the whole table -/

/-- The response to a report under a list of waivers is what the whole table says, and passes the
rest of the report on. -/
structure Concludes (request : Request) (r : Report) (ws : WaiverList) (response : Response) :
    Prop where
  outcome : response.outcome = .decide r.status r.verdict
    (.ofComponents r.components request.threshold ws) request.policy
  evaluation (e : Evaluation) : response.evaluation = some e ↔
    r.status = .ready ∧ e = .ofComponents r.components request.threshold ws
  product : response.product = request.product
  status : response.status = r.status
  verdict : response.verdict = r.verdict
  detail : response.detail = r.detail
  threshold : response.threshold = request.threshold

theorem concludes_respond (request : Request) (link : String) (r : Report) (ws : WaiverList) :
    Concludes request r ws (respond request link r ws) where
  outcome := rfl
  evaluation e := by
    by_cases h : r.status = .ready
    · simp only [respond, h, if_true, Option.some.injEq, true_and, eq_comm]
    · simp only [respond, h, if_false, reduceCtorEq, false_and]
  product := rfl
  status := rfl
  verdict := rfl
  detail := rfl
  threshold := rfl

/-- A response is the whole table's for the waivers that were loaded and the report that the
service then gave. -/
theorem concludes_of_gives {service : Service (StateM σ)}
    {load : Source → ExceptT Failure (StateM σ) WaiverList} {say : Message → StateM σ Unit}
    {request : Request} {s s' : σ} {response : Response}
    (h : Gives (run service load say request) s response s') :
    ∃ ws r, Loads load say request.source s ws ∧ Asks service load say request s ws (.ok r) ∧
      Concludes request r ws response := by
  rw [run_eq_ask] at h
  obtain ⟨ws, s₁, hws, h⟩ := gives_bind.mp h
  obtain ⟨r, hr, hresponse⟩ := answers_of_gives h
  refine ⟨ws, r, loads_of_gives hws, ⟨s₁, hws, hr⟩, ?_⟩
  rw [hresponse]
  exact concludes_respond request _ r ws

/-- A run that gives a response has loaded the source, if there is one, and has then asked the
service for the report of the product and for nothing else; its response is the whole table's
for that report and those waivers. A run that fails has the failure of the source and has asked
the service for nothing, or it has the failure of the service, which it asked once the waivers
were loaded. -/
theorem run_refines_table (service : Service (StateM σ))
    (load : Source → ExceptT Failure (StateM σ) WaiverList) (say : Message → StateM σ Unit)
    (request : Request) (s : σ) :
    (∀ response s', Gives (run service load say request) s response s' →
      Gives (notedRun service load say request) (s, []) response
        (s', consulted request.source ++ [.report request.product]) ∧
      ∃ ws r, Loads load say request.source s ws ∧
        Asks service load say request s ws (.ok r) ∧ Concludes request r ws response) ∧
    ∀ failure s', Fails (run service load say request) s failure s' →
      (request.source ≠ .absent ∧
        Fails (notedRun service load say request) (s, []) failure (s', [.load request.source]) ∧
        ∃ s₁, Fails (load request.source) ((say (loading request.source)).run s).2 failure s₁) ∨
      (Fails (notedRun service load say request) (s, []) failure
          (s', consulted request.source ++ [.report request.product]) ∧
        ∃ ws, Loads load say request.source s ws ∧
          Asks service load say request s ws (.error failure)) := by
  have hload := recorded_loadWaivers load say request.source
  have hask := recorded_ask service say request
  rw [notedRun, run_eq_ask (notedService service)]
  constructor
  · intro response s' h
    refine ⟨?_, concludes_of_gives h⟩
    rw [run_eq_ask] at h
    obtain ⟨ws, s₁, hws, h⟩ := gives_bind.mp h
    exact gives_bind.mpr ⟨ws, _, hload.gives hws, (hask ws).gives h⟩
  · intro failure s' h
    rw [run_eq_ask] at h
    obtain h | ⟨ws, s₁, hws, h⟩ := fails_bind.mp h
    · obtain ⟨ha, hsource⟩ := fails_loadWaivers h
      refine .inl ⟨ha, fails_bind.mpr (.inl ?_), hsource⟩
      have hnoted : Fails _ (s, []) failure (s', [] ++ consulted request.source) := hload.fails h
      rwa [consulted, if_neg ha, List.nil_append] at hnoted
    · exact .inr ⟨fails_bind.mpr (.inr ⟨ws, _, hload.gives hws, (hask ws).fails h⟩), ws,
        loads_of_gives hws, s₁, hws, answers_of_fails h⟩

/-- A service that has this report of every product. -/
def serving (r : Report) : Service (StateM Unit) where
  submit _ _ := throw .noTarget
  report _ := pure r
  pdf _ := throw .noTarget
  link _ := ""

/-- The report of a scan that goes on. -/
def busyReport : Report := { status := .busy, verdict := .pass, detail := "", components := [] }

/-- A scan that goes on is not evaluated and yet decided as by the table; a source that cannot be
read ends the run before the service is asked. -/
theorem run_refines_table_busy :
    (∃ response, Gives (notedRun (serving busyReport) (fun _ => pure []) (fun _ => pure ())
        { product := ⟨"1"⟩, source := .environment "WAIVERS" }) ((), []) response
        ((), [.load (.environment "WAIVERS"), .report ⟨"1"⟩]) ∧
      response.outcome = .retryLater ∧ ∀ e, response.evaluation ≠ some e) ∧
    Fails (notedRun (serving busyReport) (fun _ => throw .malformedWaivers) (fun _ => pure ())
      { product := ⟨"1"⟩, source := .environment "WAIVERS" }) ((), []) .malformedWaivers
      ((), [.load (.environment "WAIVERS")]) := by
  constructor
  · have hload : Loads (σ := Unit) (fun _ => pure []) (fun _ => pure ())
        (.environment "WAIVERS") () [] := ⟨(), rfl⟩
    have hfetch : Fetches (serving busyReport) (fun _ => pure []) (fun _ => pure ())
        { product := ⟨"1"⟩, source := .environment "WAIVERS" } () busyReport :=
      fun _ _ _ => ⟨(), rfl⟩
    obtain ⟨s', hrun⟩ := run_gives hload hfetch
    obtain ⟨hnoted, ws, r, -, ⟨_, -, hr⟩, hresponse⟩ := (run_refines_table _ _ _ _ _).1 _ _ hrun
    obtain rfl : busyReport = r := Except.ok.inj hr
    exact ⟨_, hnoted, hresponse.outcome, fun e he => nomatch ((hresponse.evaluation e).mp he).1⟩
  · have hrun : Fails (run (serving busyReport) (fun _ => throw Failure.malformedWaivers)
        (fun _ => pure ()) { product := ⟨"1"⟩, source := .environment "WAIVERS" }) ()
        .malformedWaivers () := rfl
    obtain ⟨-, hnoted, -⟩ | ⟨-, ws, ⟨_, hws⟩, -⟩ := (run_refines_table _ _ _ _ _).2 _ _ hrun
    · exact hnoted
    · cases hws

end ScanGate.Gate
