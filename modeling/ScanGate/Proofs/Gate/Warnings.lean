import ScanGate.Proofs.Gate.Calls
import ScanGate.Proofs.Waivers.Repetition

/-! The warnings of a run. A run warns of every waiver on its list that repeats an earlier one,
once for each and in the order of the list, and of nothing else; this comes after the list is
loaded and does not depend on what the service says afterwards. A list that cannot be loaded
gives no warning. -/
namespace ScanGate

def Message.isWarning : Message → Bool
  | warning _ => true
  | _ => false

namespace Gate

open Recording

variable {σ : Type} {service : Service (StateM σ)}
  {load : Source → ExceptT Failure (StateM σ) WaiverList} {say : Message → StateM σ Unit}
  {source : Source} {request : Request} {s s' : σ} {ws : WaiverList} {failure : Failure}
  {told : List Message}

/-- A service of whose calls nothing is written down. -/
def unnotedService (service : Service (StateM σ)) : Service (StateM (σ × List Message)) where
  submit target group := unnoted (service.submit target group)
  report product := unnoted (service.report product)
  pdf product := unnoted (service.pdf product)
  link := service.link

/-- A run with all that it tells written down. -/
def toldRun (service : Service (StateM σ)) (load : Source → ExceptT Failure (StateM σ) WaiverList)
    (say : Message → StateM σ Unit) (request : Request) :
    ExceptT Failure (StateM (σ × List Message)) Response :=
  run (unnotedService service) (fun source => unnoted (load source))
    (fun message => noted message (say message)) request

/-! ### Loading -/

/-- What is told about the waivers of a source. -/
def toldOf (source : Source) (ws : WaiverList) : List Message :=
  if source = .absent then [] else loading source :: loaded source ws

theorem filter_isWarning_toldOf (h : Loads load say source s ws) :
    (toldOf source ws).filter Message.isWarning =
      ws.duplicates.map (duplicateWarning source) := by
  unfold Loads at h
  by_cases ha : source = .absent
  · rw [if_pos ha] at h
    rw [toldOf, if_pos ha, h]
    rfl
  · have hwarnings : ∀ m ∈ ws.duplicates.map (duplicateWarning source), m.isWarning = true := by
      intro m hm
      obtain ⟨w, -, rfl⟩ := List.mem_map.mp hm
      rfl
    rw [toldOf, if_neg ha, loading, loaded, List.filter_cons_of_neg (by simp [Message.isWarning]),
      List.filter_cons_of_neg (by simp [Message.isWarning]), List.filter_eq_self.mpr hwarnings]

theorem Gives.loadWaivers_told (h : Gives (loadWaivers load say source) s ws s') :
    Gives (loadWaivers (fun source => unnoted (load source))
      (fun message => noted message (say message)) source) (s, told) ws
      (s', told ++ toldOf source ws) := by
  by_cases ha : source = .absent
  · subst ha
    rw [loadWaivers_absent] at h ⊢
    obtain ⟨rfl, rfl⟩ := gives_pure.mp h
    rw [toldOf, if_pos rfl, List.append_nil]
    exact gives_pure.mpr ⟨rfl, rfl⟩
  · rw [loadWaivers_eq _ _ ha] at h ⊢
    obtain ⟨_, s₁, htell, h⟩ := gives_bind.mp h
    obtain ⟨vs, s₂, hload, h⟩ := gives_bind.mp h
    obtain ⟨_, s₃, hloaded, h⟩ := gives_bind.mp h
    obtain ⟨rfl, rfl⟩ := gives_pure.mp h
    rw [toldOf, if_neg ha]
    refine gives_bind.mpr ⟨_, _, (recorded_noted _ _).gives htell, gives_bind.mpr ⟨_, _,
      (recorded_unnoted _).gives hload, gives_bind.mpr ⟨_, _,
      (recorded_tellAll_noted _ _).gives hloaded, gives_pure.mpr ⟨rfl, ?_⟩⟩⟩⟩
    simp

/-- Where the source fails there is nothing to warn of. -/
theorem Fails.loadWaivers_told (h : Fails (loadWaivers load say source) s failure s') :
    Fails (loadWaivers (fun source => unnoted (load source))
      (fun message => noted message (say message)) source) (s, told) failure
      (s', told ++ [loading source]) := by
  obtain ⟨ha, -⟩ := fails_loadWaivers h
  rw [loadWaivers_eq _ _ ha] at h ⊢
  obtain h | ⟨_, s₁, htell, h⟩ := fails_bind.mp h
  · exact absurd h not_fails_lift
  obtain h | ⟨vs, s₂, -, h⟩ := fails_bind.mp h
  · have hnoted : Fails (unnoted (load source)) (s₁, told ++ [loading source]) failure
        (s', told ++ [loading source] ++ []) := (recorded_unnoted _).fails h
    rw [List.append_nil] at hnoted
    exact fails_bind.mpr (.inr ⟨_, _, (recorded_noted _ _).gives htell,
      fails_bind.mpr (.inl hnoted)⟩)
  exact absurd h (not_fails_tellAll say _)

/-! ### The rest of the run -/

theorem isWarning_of_mem_fetched {link : String} {r : Report} {m : Message}
    (h : m ∈ fetched request link r ws) : m.isWarning = false := by
  unfold fetched at h
  by_cases hr : r.status = .ready
  · simp only [hr, if_true, List.mem_cons, List.not_mem_nil, or_false] at h
    obtain rfl | rfl | rfl := h <;> rfl
  · simp only [hr, if_false, List.mem_cons, List.not_mem_nil, or_false] at h
    obtain rfl | rfl := h <;> rfl

theorem recorded_ask_told (service : Service (StateM σ)) (say : Message → StateM σ Unit)
    (request : Request) (ws : WaiverList) :
    Recorded (·.filter Message.isWarning = []) (ask service say request ws)
      (ask (unnotedService service) (fun message => noted message (say message)) request ws) := by
  refine .noted_bind fun _ => (recorded_unnoted _).nil_bind (fun r => ?_) rfl
  refine ((recorded_tellAll_noted say _).bind_nil fun _ => recorded_pure _).mono ?_
  rintro _ rfl
  have hfetched : ∀ m ∈ fetched request (service.link request.product) r ws, ¬ m.isWarning = true :=
    fun m hm => by simp [isWarning_of_mem_fetched hm]
  rw [List.filter_cons_of_neg (by simp [fetching, Message.isWarning])]
  exact List.filter_eq_nil_iff.mpr hfetched

/-! ### The warnings -/

/-- A run from `s` tells this, and is the same run when it is written down. -/
def Tells (service : Service (StateM σ)) (load : Source → ExceptT Failure (StateM σ) WaiverList)
    (say : Message → StateM σ Unit) (request : Request) (s : σ) (told : List Message) : Prop :=
  let (result, s') := (run service load say request).run.run s
  (toldRun service load say request).run.run (s, []) = (result, s', told)

/-- The warnings in what is told are one for each duplicate on the list that a run from `s` loads,
in their order. Where no list can be loaded there are none. -/
inductive Warns (load : Source → ExceptT Failure (StateM σ) WaiverList)
    (say : Message → StateM σ Unit) (source : Source) (s : σ) (told : List Message) : Prop
  | loaded (ws : WaiverList) (loads : Loads load say source s ws)
      (warnings : told.filter Message.isWarning = ws.duplicates.map (duplicateWarning source))
  | failed (failure : Failure) (s' : σ) (fails : Fails (loadWaivers load say source) s failure s')
      (warnings : told.filter Message.isWarning = [])

theorem exists_tells_warns (service : Service (StateM σ))
    (load : Source → ExceptT Failure (StateM σ) WaiverList) (say : Message → StateM σ Unit)
    (request : Request) (s : σ) :
    ∃ told, Tells service load say request s told ∧ Warns load say request.source s told := by
  -- Loading is told exactly; of what is asked afterwards only that it does not warn.
  simp only [Tells, toldRun, run_eq_ask]
  obtain ⟨ws, s₁, hws⟩ | ⟨failure, s₁, hfails⟩ :=
    gives_or_fails (loadWaivers load say request.source) s
  · obtain ⟨told, hquiet, hask⟩ := recorded_ask_told service say request ws s₁
      ([] ++ toldOf request.source ws)
    rw [hws.run_bind, hws.loadWaivers_told.run_bind]
    refine ⟨_, hask, .loaded ws (loads_of_gives hws) ?_⟩
    rw [List.nil_append, List.filter_append, hquiet, List.append_nil]
    exact filter_isWarning_toldOf (loads_of_gives hws)
  · rw [hfails.run_bind, hfails.loadWaivers_told.run_bind]
    exact ⟨_, rfl, .failed failure s₁ hfails rfl⟩

/-- The duplicates of a list are, in its order, the waivers at the places that repeat an earlier
one, placeholders left out, so there are as many as usable waivers less the distinct ones of
these. Every run warns of each duplicate on its list and of nothing else, in this order. A list
that is rid of them has no duplicates, and every report is evaluated and decided as before. -/
theorem duplicates_told :
    (∀ ws : WaiverList,
      ws.duplicates = (ws.pick fun i => decide (ws.RepeatsAt i)) ∧
      ws.duplicates.length + ws.usable.card = (ws.filter (!·.isPlaceholder)).length ∧
      ws.withoutDuplicates.duplicates = [] ∧
      ws.withoutDuplicates.Interchangeable ws) ∧
    ∀ {σ : Type} (service : Service (StateM σ))
      (load : Source → ExceptT Failure (StateM σ) WaiverList) (say : Message → StateM σ Unit)
      (request : Request) (s : σ),
      ∃ told, Tells service load say request s told ∧ Warns load say request.source s told :=
  ⟨fun ws => ⟨ws.duplicates_eq_pick, ws.length_duplicates, ws.duplicates_withoutDuplicates,
    WaiverList.interchangeable_of_usable ws.usable_withoutDuplicates⟩, exists_tells_warns⟩

end Gate

end ScanGate
