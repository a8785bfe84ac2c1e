import ScanGate.Proofs.Gate.Calls

/-! The status that a view shows. A status that is known is shown by a word, any other code as it
came. So the text tells the codes apart, unless a code is the word of a known status; then it
looks like that status, but has neither the verdict of a scan that is ready nor the outcome of
one that goes on. -/
namespace ScanGate

/-! ### Words and codes -/

namespace Status

/-- The code on the left is no known status, but the word for that of the code on the right. -/
inductive Shadows : String → String → Prop
  | busy : Shadows "busy" "B"
  | failed : Shadows "failed" "F"
  | ready : Shadows "ready" "R"

theorem shadows_iff {c₁ c₂ : String} : Shadows c₁ c₂ ↔
    c₁ = "busy" ∧ c₂ = "B" ∨ c₁ = "failed" ∧ c₂ = "F" ∨ c₁ = "ready" ∧ c₂ = "R" := by
  constructor
  · rintro (_ | _ | _) <;> simp
  · rintro (⟨rfl, rfl⟩ | ⟨rfl, rfl⟩ | ⟨rfl, rfl⟩)
    · exact .busy
    · exact .failed
    · exact .ready

instance : DecidableRel Shadows := fun _ _ => decidable_of_iff _ shadows_iff.symm

/-- Different statuses are shown by the same text only where one is a code that reads like the
other. -/
theorem text_eq_iff {s₁ s₂ : Status} (h : s₁ ≠ s₂) :
    s₁.text = s₂.text ↔ s₁ = unknown s₂.text ∨ s₂ = unknown s₁.text := by
  cases s₁ <;> cases s₂ <;> simp_all [text, eq_comm]

theorem ofCode_cases (c : String) :
    c = "B" ∧ ofCode c = busy ∨ c = "F" ∧ ofCode c = failed ∨ c = "R" ∧ ofCode c = ready ∨
      (c ≠ "B" ∧ c ≠ "F" ∧ c ≠ "R") ∧ ofCode c = unknown c := by
  unfold ofCode
  by_cases hb : c = "B"
  · simp [hb]
  by_cases hf : c = "F"
  · simp [hf]
  by_cases hr : c = "R"
  · simp [hr]
  · simp [hb, hf, hr]

variable {c c₁ c₂ : String}

theorem ofCode_eq_unknown_iff (h : ofCode c₁ ≠ ofCode c₂) :
    ofCode c₁ = unknown (ofCode c₂).text ↔ Shadows c₁ c₂ := by
  constructor
  · intro heq
    obtain ⟨-, h₁⟩ | ⟨-, h₁⟩ | ⟨-, h₁⟩ | ⟨-, h₁⟩ := ofCode_cases c₁ <;> rw [h₁] at heq <;> cases heq
    obtain ⟨rfl, h₂⟩ | ⟨rfl, h₂⟩ | ⟨rfl, h₂⟩ | ⟨-, h₂⟩ := ofCode_cases c₂
    · exact .busy
    · exact .failed
    · exact .ready
    · rw [h₂] at h h₁
      exact absurd h₁ h
  · rintro (_ | _ | _) <;> rfl

theorem text_ofCode_eq_iff (h : ofCode c₁ ≠ ofCode c₂) :
    (ofCode c₁).text = (ofCode c₂).text ↔ Shadows c₁ c₂ ∨ Shadows c₂ c₁ := by
  rw [text_eq_iff h, ofCode_eq_unknown_iff h, ofCode_eq_unknown_iff h.symm]

end Status

/-! ### Views -/

namespace View

open Gate (Gives Asks)

/-- What is shown of the response of a run that has got a report with this code. -/
inductive ShowsCode (code : String) : View → Prop
  | mk {σ : Type} {service : Service (StateM σ)}
      {load : Source → ExceptT Failure (StateM σ) WaiverList} {say : Message → StateM σ Unit}
      {request : Gate.Request} {s s' : σ} {ws : WaiverList} {r : Report} {response : Response}
      (hrun : Gives (Gate.run service load say request) s response s')
      (hasks : Asks service load say request s ws (.ok r)) (hcode : r.status = .ofCode code) :
      ShowsCode code (.ofResponse response)

variable {code : String} {v : View}

theorem ShowsCode.exists_concludes (h : ShowsCode code v) : ∃ request r ws response,
    r.status = .ofCode code ∧ Gate.Concludes request r ws response ∧ v = .ofResponse response := by
  obtain ⟨hrun, hasks, hcode⟩ := h
  obtain ⟨ws', r', -, hasks', hconcludes⟩ := Gate.concludes_of_gives hrun
  obtain ⟨rfl, hr⟩ := hasks.unique hasks'
  cases hr
  exact ⟨_, _, _, _, hcode, hconcludes, rfl⟩

theorem ShowsCode.status_eq (h : ShowsCode code v) : v.status = (Status.ofCode code).text := by
  obtain ⟨request, r, ws, response, hcode, hconcludes, rfl⟩ := h.exists_concludes
  rw [ofResponse, hconcludes.status, hcode]

theorem ShowsCode.verdict_iff (h : ShowsCode code v) : v.verdict.isSome = true ↔ code = "R" := by
  obtain ⟨request, r, ws, response, hcode, hconcludes, rfl⟩ := h.exists_concludes
  rw [← (Status.ofCode_iff code).2.2, ← hcode, ← hconcludes.status, ofResponse,
    Response.verdictView]
  split <;> simp [*]

theorem ShowsCode.outcome_iff (h : ShowsCode code v) : v.outcome = .retryLater ↔ code = "B" := by
  obtain ⟨request, r, ws, response, hcode, hconcludes, rfl⟩ := h.exists_concludes
  have hkind (o : Outcome) : o.kind = .retryLater ↔ o = .retryLater := by
    cases o <;> simp [Outcome.kind]
  rw [← (Status.ofCode_iff code).1, ← hcode, ofResponse, hkind, hconcludes.outcome,
    Outcome.decide_eq_retryLater_iff]

/-- There is a run for every code. -/
theorem exists_showsCode (code : String) : ∃ v, ShowsCode code v := by
  let r : Report := { status := .ofCode code, verdict := .pass, detail := "", components := [] }
  have hload : Gate.Loads (σ := Unit) (fun _ => pure []) (fun _ => pure ()) .absent () [] := by
    rw [Gate.Loads, if_pos rfl]
  have hfetch : Gate.Fetches (Gate.serving r) (fun _ => pure []) (fun _ => pure ())
      { product := ⟨"1"⟩ } () r := fun _ _ _ => ⟨(), rfl⟩
  obtain ⟨s', hrun⟩ := Gate.run_gives hload hfetch
  exact ⟨_, .mk hrun ⟨(), rfl, rfl⟩ rfl⟩

/-- The status that is shown tells two codes of different statuses apart, unless one of them is
the word that is shown for the status of the other. A view that shows a scan that is ready has a
verdict, and one that shows a scan that goes on is to be retried, unless the code is that word. -/
theorem status_tells_apart :
    (∀ c₁ c₂ v₁ v₂, ShowsCode c₁ v₁ → ShowsCode c₂ v₂ → Status.ofCode c₁ ≠ Status.ofCode c₂ →
      (v₁.status = v₂.status ↔ Status.Shadows c₁ c₂ ∨ Status.Shadows c₂ c₁)) ∧
    ∀ c v, ShowsCode c v →
      ((v.status = "ready" ↔ v.verdict.isSome = true) ↔ c ≠ "ready") ∧
      ((v.status = "busy" ↔ v.outcome = .retryLater) ↔ c ≠ "busy") := by
  constructor
  · intro c₁ c₂ v₁ v₂ h₁ h₂ h
    rw [h₁.status_eq, h₂.status_eq]
    exact Status.text_ofCode_eq_iff h
  · intro c v h
    rw [h.status_eq, h.verdict_iff, h.outcome_iff]
    obtain ⟨rfl, hc⟩ | ⟨rfl, hc⟩ | ⟨rfl, hc⟩ | ⟨hne, hc⟩ := Status.ofCode_cases c
    · simp [hc, Status.text]
    · simp [hc, Status.text]
    · simp [hc, Status.text]
    · simp [hc, hne, Status.text]

/-- A code that is not known is told apart from a scan that is ready. -/
theorem status_tells_apart_paused : ∃ v₁ v₂, ShowsCode "R" v₁ ∧ ShowsCode "P" v₂ ∧
    v₁.status ≠ v₂.status ∧ (v₂.status = "ready" ↔ v₂.verdict.isSome = true) := by
  obtain ⟨v₁, h₁⟩ := exists_showsCode "R"
  obtain ⟨v₂, h₂⟩ := exists_showsCode "P"
  refine ⟨v₁, v₂, h₁, h₂, ?_, (status_tells_apart.2 _ _ h₂).1.mpr (by decide)⟩
  rw [Ne, status_tells_apart.1 _ _ _ _ h₁ h₂ (by decide)]
  decide

/-- Two codes that are shown alike: the view of the second shows a scan that is ready and has no
verdict. -/
theorem ready_shown_twice : ∃ v₁ v₂, ShowsCode "R" v₁ ∧ ShowsCode "ready" v₂ ∧
    Status.ofCode "R" ≠ Status.ofCode "ready" ∧ v₁.status = v₂.status ∧
    v₂.status = "ready" ∧ v₂.verdict.isSome = false := by
  obtain ⟨v₁, h₁⟩ := exists_showsCode "R"
  obtain ⟨v₂, h₂⟩ := exists_showsCode "ready"
  refine ⟨v₁, v₂, h₁, h₂, by decide, h₁.status_eq.trans h₂.status_eq.symm, h₂.status_eq, ?_⟩
  rw [← Bool.not_eq_true, h₂.verdict_iff]
  decide

end View

end ScanGate
