import ScanGate.Proofs.Gate.Calls
import ScanGate.Proofs.Text.Blank
import ScanGate.Submission

/-! What happens in a submission. It ends in one of five ways, and what it has done up to there is
the same for all services and stores: a group of blanks ends it before anything happens, then the
target is submitted once, and only the id that the service has assigned is kept, if it is wanted.
Who is told that the scan is submitted has the id. -/
namespace ScanGate.Submission

open Recording

variable {σ : Type}

/-- What can happen in a submission: calls of the service and of the store, with their answers,
and messages. -/
inductive Event where
  | submit (target : Target) (group : String) (answer : Except Failure ProductId)
  | report (product : ProductId) (answer : Except Failure Report)
  | pdf (product : ProductId) (answer : Except Failure ByteArray)
  | save (id : ProductId) (answer : Except Failure Unit)
  | told (message : Message)

namespace Event

/-- The call of the service. -/
def call? : Event → Option Gate.Call
  | submit target group _ => some (.submit target group)
  | report product _ => some (.report product)
  | pdf product _ => some (.pdf product)
  | save _ _ | told _ => none

/-- The id that the service assigns. -/
def assigned? : Event → Option ProductId
  | submit _ _ (.ok id) => some id
  | _ => none

/-- The id that the store is to keep. -/
def saved? : Event → Option ProductId
  | save id _ => some id
  | _ => none

end Event

/-- The service with what it is asked and answers written down. -/
def answeredService (service : Service (StateM σ)) : Service (StateM (σ × List Event)) where
  submit target group := answered (.submit target group) (service.submit target group)
  report product := answered (.report product) (service.report product)
  pdf product := answered (.pdf product) (service.pdf product)
  link := service.link

/-- A submission with all that happens written down. -/
def answeredRun (service : Service (StateM σ)) (save : ProductId → ExceptT Failure (StateM σ) Unit)
    (say : Message → StateM σ Unit) (request : Request) :
    ExceptT Failure (StateM (σ × List Event)) ProductId :=
  run (answeredService service) (fun id => answered (.save id) (save id))
    (fun message => noted (.told message) (say message)) request

/-! ### The five ways to end -/

/-- A group of blanks alone. -/
def IsBlank (group : String) : Prop := ∀ c ∈ group.toList, Text.isBlank c = true

theorem isEmpty_trimChars {group : String} :
    (Text.trimChars group.toList).isEmpty = true ↔ IsBlank group := by
  rw [List.isEmpty_iff, Text.trimChars_eq_nil_iff, IsBlank]

/-- What is told before the service is asked. -/
def submitting (request : Request) : Message :=
  .waiting ("Submitting " ++ request.target.text ++ " to BDBA group " ++ request.group ++ "...")

/-- What is told once the service has answered. -/
def assigned (link : String) : Message := .report ("🔗 " ++ link)

/-- What is told once the id is kept. -/
def kept : Message := .report "💾 Product id saved for the report step"

/-- What is told last. -/
def completed : Message := .completion "✅ Scan submitted"

/-- The submission with this answer. -/
def submitted (request : Request) (answer : Except Failure ProductId) : Event :=
  .submit request.target (Text.trim request.group) answer

/-- A submission ends with this result after these events. -/
inductive Ends (link : ProductId → String) (request : Request) :
    Except Failure ProductId → List Event → Prop
  | rejected (hgroup : IsBlank request.group) : Ends link request (.error noGroup) []
  | refused (hgroup : ¬ IsBlank request.group) (failure : Failure) :
      Ends link request (.error failure)
        [.told (submitting request), submitted request (.error failure)]
  | unkept (hgroup : ¬ IsBlank request.group) (hkeep : request.keep = false) (id : ProductId) :
      Ends link request (.ok id)
        [.told (submitting request), submitted request (.ok id), .told (assigned (link id)),
          .told completed]
  | unsaved (hgroup : ¬ IsBlank request.group) (hkeep : request.keep = true) (id : ProductId)
      (failure : Failure) : Ends link request (.error failure)
        [.told (submitting request), submitted request (.ok id), .told (assigned (link id)),
          .save id (.error failure)]
  | saved (hgroup : ¬ IsBlank request.group) (hkeep : request.keep = true) (id : ProductId) :
      Ends link request (.ok id)
        [.told (submitting request), submitted request (.ok id), .told (assigned (link id)),
          .save id (.ok ()), .told kept, .told completed]

variable {service : Service (StateM σ)} {save : ProductId → ExceptT Failure (StateM σ) Unit}
  {say : Message → StateM σ Unit} {link : ProductId → String} {request : Request}
  {result : Except Failure ProductId} {events : List Event}

theorem traced_run (service : Service (StateM σ))
    (save : ProductId → ExceptT Failure (StateM σ) Unit) (say : Message → StateM σ Unit)
    (request : Request) :
    Traced (Ends service.link request) (run service save say request)
      (answeredRun service save say request) := by
  unfold answeredRun run
  by_cases hblank : IsBlank request.group
  · rw [if_pos (isEmpty_trimChars.mpr hblank), if_pos (isEmpty_trimChars.mpr hblank)]
    exact traced_mk (.rejected hblank)
  rw [if_neg (mt isEmpty_trimChars.mp hblank), if_neg (mt isEmpty_trimChars.mp hblank)]
  refine .noted_bind fun _ => .answered_bind (fun failure => .refused hblank failure) fun id =>
    .noted_bind fun _ => ?_
  cases hkeep : request.keep with
  | false => exact .noted_bind fun _ => traced_mk (.unkept hblank hkeep id)
  | true =>
    exact .answered_bind (fun failure => .unsaved hblank hkeep id failure) fun _ =>
      .noted_bind fun _ => .noted_bind fun _ => traced_mk (.saved hblank hkeep id)

/-! ### What every submission does -/

/-- What a submission does, by its result and by what has happened: a blank group is rejected
first; otherwise the service is called once; the ids to be kept are those assigned, if they are
wanted, and each is assigned before; the result is that of the calls; and completion is told in
the end of those that succeed. -/
structure Obeys (request : Request) (result : Except Failure ProductId) (events : List Event) :
    Prop where
  rejects : IsBlank request.group → result = .error noGroup ∧ events = []
  calls : ¬ IsBlank request.group →
    events.filterMap Event.call? = [.submit request.target (Text.trim request.group)]
  saves : events.filterMap Event.saved? =
    if request.keep then events.filterMap Event.assigned? else []
  order (id : ProductId) (answer : Except Failure Unit) : .save id answer ∈ events →
    [submitted request (.ok id), .save id answer].Sublist events
  succeeds (id : ProductId) : result = .ok id ↔ submitted request (.ok id) ∈ events ∧
    (request.keep = true → .save id (.ok ()) ∈ events)
  fails (failure : Failure) : ¬ IsBlank request.group → (result = .error failure ↔
    submitted request (.error failure) ∈ events ∨ ∃ id, .save id (.error failure) ∈ events)
  completes (text : String) : .told (.completion text) ∈ events ↔
    .completion text = completed ∧ ∃ id, result = .ok id

theorem Ends.rejects (h : Ends link request result events) (hblank : IsBlank request.group) :
    result = .error noGroup ∧ events = [] := by
  cases h with
  | rejected => exact ⟨rfl, rfl⟩
  | refused hgroup | unkept hgroup | unsaved hgroup | saved hgroup => exact absurd hblank hgroup

theorem Ends.calls (h : Ends link request result events) (hgroup : ¬ IsBlank request.group) :
    events.filterMap Event.call? = [.submit request.target (Text.trim request.group)] := by
  cases h with
  | rejected hblank => exact absurd hblank hgroup
  | refused | unkept | unsaved | saved => rfl

theorem Ends.saves (h : Ends link request result events) : events.filterMap Event.saved? =
    if request.keep then events.filterMap Event.assigned? else [] := by
  cases h with
  | rejected | refused => cases request.keep <;> rfl
  | unkept _ hkeep | unsaved _ hkeep | saved _ hkeep =>
    rw [hkeep]
    rfl

theorem Ends.order (h : Ends link request result events) {id : ProductId}
    {answer : Except Failure Unit} (hsave : .save id answer ∈ events) :
    [submitted request (.ok id), .save id answer].Sublist events := by
  cases h with
  | rejected | refused | unkept => simp [submitted] at hsave
  | unsaved | saved =>
    obtain ⟨rfl, rfl⟩ : id = _ ∧ answer = _ := by simpa [submitted] using hsave
    exact .cons _ (.cons_cons _ (.cons _ (.cons_cons _ (List.nil_sublist _))))

theorem Ends.succeeds (h : Ends link request result events) (id : ProductId) :
    result = .ok id ↔ submitted request (.ok id) ∈ events ∧
      (request.keep = true → .save id (.ok ()) ∈ events) := by
  cases h with
  | rejected | refused => simp [submitted]
  | unkept _ hkeep | unsaved _ hkeep | saved _ hkeep => simp [submitted, hkeep, eq_comm]

theorem Ends.fails (h : Ends link request result events) (failure : Failure)
    (hgroup : ¬ IsBlank request.group) : result = .error failure ↔
      submitted request (.error failure) ∈ events ∨ ∃ id, .save id (.error failure) ∈ events := by
  cases h with
  | rejected hblank => exact absurd hblank hgroup
  | refused | unkept | unsaved | saved => simp [submitted, eq_comm]

theorem Ends.completes (h : Ends link request result events) (text : String) :
    .told (.completion text) ∈ events ↔ .completion text = completed ∧ ∃ id, result = .ok id := by
  cases h with
  | rejected | refused | unkept | unsaved | saved =>
    simp [submitted, submitting, assigned, kept]

theorem Ends.obeys (h : Ends link request result events) : Obeys request result events where
  rejects := h.rejects
  calls := h.calls
  saves := h.saves
  order _ _ := h.order
  succeeds := h.succeeds
  fails := h.fails
  completes := h.completes

/-- Nothing is changed where the group is blank. -/
theorem run_of_isBlank (hblank : IsBlank request.group) (s : σ) :
    (run service save say request).run.run s = (.error noGroup, s) := by
  unfold run
  rw [if_pos (isEmpty_trimChars.mpr hblank)]
  rfl

/-- Every submission obeys, whatever the service and the store do, and one that is rejected leaves
the state as it is. -/
theorem run_obeys (service : Service (StateM σ))
    (save : ProductId → ExceptT Failure (StateM σ) Unit) (say : Message → StateM σ Unit)
    (request : Request) (s : σ) : ∃ result s' events,
      (run service save say request).run.run s = (result, s') ∧
      (answeredRun service save say request).run.run (s, []) = (result, s', events) ∧
      Obeys request result events ∧ (IsBlank request.group → s' = s) := by
  obtain ⟨events, hends, hrun⟩ := traced_run service save say request s []
  rcases hresult : (run service save say request).run.run s with ⟨result, s'⟩
  rw [hresult] at hends hrun
  refine ⟨result, s', events, rfl, hrun, hends.obeys, fun hblank => ?_⟩
  exact congrArg Prod.snd (hresult.symm.trans (run_of_isBlank hblank s))

/-- A service that gives every target the same id. -/
def assigning (id : ProductId) : Service (StateM Unit) where
  submit _ _ := pure id
  report _ := throw .noTarget
  pdf _ := throw .noTarget
  link _ := ""

/-- An id that cannot be kept is assigned and passed to the store, the failure of the store is the
result, and completion is not told; for a blank group nothing happens at all. -/
theorem run_obeys_assigning :
    (∃ events, Obeys { target := .file "fw.bin", group := " 17 ", keep := true }
        (.error (.unwritable "id" "denied")) events ∧
      events.filterMap Event.call? = [.submit (.file "fw.bin") "17"] ∧
      events.filterMap Event.saved? = [⟨"4711"⟩] ∧
      ∀ text, .told (.completion text) ∉ events) ∧
    Obeys { target := .file "fw.bin", group := "\t ", keep := true } (.error noGroup) [] := by
  have hgroup : ¬ IsBlank " 17 " := fun h => absurd (h '1' (by decide)) (by decide)
  have hblank : IsBlank "\t " := by
    have htrimmed : (Text.trimChars "\t ".toList).isEmpty = true := by decide
    exact isEmpty_trimChars.mp htrimmed
  constructor
  · obtain ⟨result, s', events, hresult, hrun, hobeys, -⟩ := run_obeys (assigning ⟨"4711"⟩)
      (fun _ => throw (.unwritable "id" "denied")) (fun _ => pure ())
      { target := .file "fw.bin", group := " 17 ", keep := true } ()
    obtain ⟨rfl, rfl⟩ := Prod.ext_iff.mp hresult
    refine ⟨events, hobeys, ?_, ?_, fun text htold => ?_⟩
    · rw [hobeys.calls hgroup]
      rfl
    · obtain rfl := congrArg (·.2.2) hrun
      rfl
    · obtain ⟨-, id, hid⟩ := (hobeys.completes text).mp htold
      cases hid
  · obtain ⟨result, s', events, -, -, hobeys, -⟩ := run_obeys (assigning ⟨"4711"⟩)
      (fun _ => pure ()) (fun _ => pure ())
      { target := .file "fw.bin", group := "\t ", keep := true } ()
    obtain ⟨rfl, rfl⟩ := hobeys.rejects hblank
    exact hobeys

end ScanGate.Submission
