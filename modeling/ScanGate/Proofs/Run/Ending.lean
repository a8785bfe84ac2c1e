import ScanGate.Proofs.Run.Writing

/-! How a run for a report ends. If every step succeeds, the exit code is that of the outcome
and the destination has the rendering; if not, the exit code is that of a failure and nothing
has been written to the output stream. -/
namespace ScanGate.Run

open CommandLine (ReportOptions)

variable {o : ReportOptions} {e e' : Surroundings} {s : Settings} {response : Response}

/-! ### What a run needs -/

/-- Every step before the report is written succeeds: there are settings, a client, a
product, waivers and a report. -/
inductive Responds (o : ReportOptions) (e : Surroundings) (s : Settings) :
    Response → Surroundings → Prop
  | mk {client : Client} {product : ProductId} {ws : WaiverList} {r : Report}
      {e₁ e' : Surroundings} (hsettings : s.Of e.tree o.connection.config)
      (hclient : Client.Of o.connection s client) (hproduct : product.Of e.tree o.product)
      (hwaivers : (request o s product).source.Provides e ws e₁)
      (hreport : client.Fetches product e₁ r e') :
      Responds o e s
        (Gate.respond (request o s product) (client.productUrl product) r ws) e'

/-- Every step succeeds, the writing included. -/
structure Completes (o : ReportOptions) (e : Surroundings) (s : Settings) (response : Response) :
    Prop where
  responds : ∃ e', Responds o e s response e'
  writable : ∀ path, o.output = some path → e.tree.Writable path

/-- Whether there are colours. -/
def colored (e : Surroundings) : Bool := (e.lookup? "NO_COLOR").isNone

/-- The response as it is written; a report in a file has no colours. -/
def rendering (o : ReportOptions) (colored : Bool) (s : Settings) (response : Response) : String :=
  (View.ofResponse response).render (format o s) (colored && o.output.isNone)

/-- The destination has this text and nothing else: it is all that goes to the output stream,
or it is the file and nothing goes to the output stream. -/
def Holds (o : ReportOptions) (w w' : World) (text : String) : Prop :=
  match o.output with
  | none => w'.output = w.output ++ text ∧ w'.tree = w.tree
  | some path => w'.output = w.output ∧ w'.tree.read path = .ok (.bytes text.toUTF8)

/-! ### Up to the response -/

/-- The part of a run before anything is written. -/
def respond {m : Type → Type} [Monad m] (s : System m) (colored : Bool) (o : ReportOptions) :
    ExceptT Failure m (Settings × Response) := do
  let (settings, client) ← prepare s (tell s colored) o.connection
  let product ← chooseProduct s o.product
  let response ← Gate.run (client.service s) (Source.load s) (tell s colored)
    (request o settings product)
  return (settings, response)

/-- The rendering is written to its destination. -/
def deliver {m : Type → Type} [Monad m] (s : System m) (colored : Bool) (o : ReportOptions)
    (settings : Settings) (response : Response) : ExceptT Failure m ExitCode := do
  match o.output with
  | some path => Files.present s path (rendering o colored settings response)
  | none => s.output (rendering o colored settings response)
  return response.outcome.exitCode

theorem report_eq {m : Type → Type} [Monad m] [LawfulMonad m] (s : System m) (colored : Bool)
    (o : ReportOptions) :
    report s colored o = respond s colored o >>= fun r => deliver s colored o r.1 r.2 := by
  unfold report respond deliver
  simp only [bind_assoc, pure_bind]
  rfl

theorem meets_respond (colored : Bool) (o : ReportOptions) :
    Meets (respond World.system colored o) fun e r e' => Responds o e r.1 r.2 e' := by
  have hprepare := (looks_loadSettings colored o.connection.config).bind fun s =>
    (looks_makeClient colored o.connection s).bind fun client => looks_pure (s, client)
  refine Meets.congr (hprepare.look_bind fun p => (looks_chooseProduct o.product).look_bind
    fun product => (meets_run colored p.2 (request o p.1 product)).bind
      fun response => looks_pure (p.1, response)) fun e r e' => ⟨?_, ?_⟩
  · rintro ⟨_, ⟨s, hsettings, client, hclient, rfl⟩, product, hproduct, _, _,
      ⟨ws, e₁, r, hwaivers, hreport, rfl⟩, rfl, rfl⟩
    exact .mk hsettings hclient hproduct hwaivers hreport
  · obtain ⟨s, response⟩ := r
    intro h
    change Responds o e s response e' at h
    cases h with
    | mk hsettings hclient hproduct hwaivers hreport =>
      exact ⟨_, ⟨s, hsettings, _, hclient, rfl⟩, _, hproduct, _, _,
        ⟨_, _, _, hwaivers, hreport, rfl⟩, rfl, rfl⟩

/-! ### The tree and the network -/

theorem tree_eq_of_answers {req : Request} {body : Body} (h : e.Answers req body e') :
    e'.tree = e.tree := by
  cases h
  rfl

theorem tree_eq_of_provides {source : Source} {ws : WaiverList} (h : source.Provides e ws e') :
    e'.tree = e.tree := by
  cases h with
  | address _ _ hanswer _ => exact tree_eq_of_answers hanswer
  | _ => rfl

/-- Nothing is written before there is a response. -/
theorem Responds.tree_eq (h : Responds o e s response e') : e'.tree = e.tree := by
  obtain ⟨-, -, -, hwaivers, body, ⟨-, -, -, hanswer⟩, -⟩ := h
  rw [tree_eq_of_answers hanswer, tree_eq_of_provides hwaivers]

/-! ### To the end -/

/-- To a file. -/
theorem meets_report_file {path : String} (c : Bool) (hpath : o.output = some path) :
    Meets (report World.system c o) fun e code e' => ∃ s response e₁,
      Responds o e s response e₁ ∧ e₁.tree.Writable path ∧ code = response.outcome.exitCode ∧
        ∃ t', e₁.tree.write path (rendering o c s response).toUTF8 = .ok t' ∧
          e' = { e₁ with tree := t' } := by
  have hdeliver (s : Settings) (response : Response) :
      Meets (deliver World.system c o s response) fun e code e' =>
        e.tree.Writable path ∧ code = response.outcome.exitCode ∧
        ∃ t', e.tree.write path (rendering o c s response).toUTF8 = .ok t' ∧
          e' = { e with tree := t' } := by
    unfold deliver
    rw [hpath]
    refine Meets.congr ((meets_present _).bind fun _ =>
      looks_pure response.outcome.exitCode) fun e code e' => ⟨?_, ?_⟩
    · rintro ⟨_, _, ⟨hwritable, t', ht, rfl⟩, rfl, rfl⟩
      exact ⟨hwritable, rfl, t', ht, rfl⟩
    · rintro ⟨hwritable, rfl, t', ht, rfl⟩
      exact ⟨(), _, ⟨hwritable, t', ht, rfl⟩, rfl, rfl⟩
  rw [report_eq]
  refine ((meets_respond c o).bind fun r => hdeliver r.1 r.2).congr fun e code e' => ?_
  simp only [Prod.exists]

/-- To the output stream. -/
theorem deliver_run (c : Bool) (hpath : o.output = none) (w : World) :
    (deliver World.system c o s response).run.run w = (.ok response.outcome.exitCode,
      { w with output := w.output ++ rendering o c s response }) := by
  unfold deliver
  rw [hpath]
  rfl

/-- A failure becomes its explanation and its exit code. -/
theorem run_explained (x : ExceptT Failure (StateM World) ExitCode) (w : World) :
    StateT.run (do
      match ← x.run with
      | .ok code => return code
      | .error failure =>
        World.system.error (explain failure)
        return .applicationError : StateM World ExitCode) w =
      match x.run.run w with
      | (.ok code, w') => (code, w')
      | (.error failure, w') =>
        (.applicationError, { w' with error := w'.error ++ explain failure }) := by
  rw [StateT.run_bind]
  rcases x.run.run w with ⟨_ | code, w'⟩ <;> rfl

theorem run_command (c : CommandLine.Command) (w : World) :
    (run World.system c).run w =
      match (command World.system (colored w.surroundings) c).run.run w with
      | (.ok code, w') => (code, w')
      | (.error failure, w') =>
        (.applicationError, { w' with error := w'.error ++ explain failure }) := by
  have hcolored : (isColored World.system).run w = (colored w.surroundings, w) := rfl
  rw [← run_explained, run, StateT.run_bind, hcolored]
  rfl

theorem run_report (o : ReportOptions) (w : World) :
    (run World.system (.report o)).run w =
      match (report World.system (colored w.surroundings) o).run.run w with
      | (.ok code, w') => (code, w')
      | (.error failure, w') =>
        (.applicationError, { w' with error := w'.error ++ explain failure }) :=
  run_command (.report o) w

theorem run_scan (o : CommandLine.ScanOptions) (w : World) :
    (run World.system (.scan o)).run w =
      match (scan World.system (colored w.surroundings) o).run.run w with
      | (.ok code, w') => (code, w')
      | (.error failure, w') =>
        (.applicationError, { w' with error := w'.error ++ explain failure }) :=
  run_command (.scan o) w

theorem report_completes {w : World} (h : Completes o w.surroundings s response) :
    ∃ w', (report World.system (colored w.surroundings) o).run.run w =
      (.ok response.outcome.exitCode, w') ∧
        Holds o w w' (rendering o (colored w.surroundings) s response) := by
  obtain ⟨⟨e₁, hresponds⟩, hwritable⟩ := h
  have htree := hresponds.tree_eq
  unfold Holds
  cases hpath : o.output with
  | none =>
    obtain ⟨w₁, hrun, rfl, hquiet⟩ :=
      (meets_respond (colored w.surroundings) o).run_ok (a := (s, response)) hresponds
    rw [report_eq, ExceptT.run_bind, StateT.run_bind, hrun]
    exact ⟨_, deliver_run _ hpath w₁, congrArg (· ++ _) hquiet, htree⟩
  | some path =>
    have hpathWritable := hwritable path hpath
    obtain ⟨t', ht⟩ := hpathWritable.place
      (rendering o (colored w.surroundings) s response).toUTF8
    rw [← htree] at hpathWritable ht
    obtain ⟨w', hrun, hw', hquiet⟩ := (meets_report_file (colored w.surroundings) hpath).run_ok
      ⟨s, response, e₁, hresponds, hpathWritable, rfl, t', ht, rfl⟩
    have htree' : w'.tree = t' := congrArg Surroundings.tree hw'
    rw [← htree'] at ht
    exact ⟨w', hrun, hquiet, Tree.read_of_write ht⟩

theorem report_fails {w : World} (h : ¬ ∃ s response, Completes o w.surroundings s response) :
    ∃ failure w', (report World.system (colored w.surroundings) o).run.run w =
      (.error failure, w') ∧ w'.output = w.output := by
  cases hpath : o.output with
  | none =>
    rw [report_eq, ExceptT.run_bind, StateT.run_bind]
    obtain ⟨failure, w', hrun, hquiet⟩ | ⟨⟨s, response⟩, w', -, hresponds, -⟩ :=
      (meets_respond (colored w.surroundings) o).run_cases w
    · rw [hrun]
      exact ⟨failure, w', rfl, hquiet⟩
    · refine absurd ⟨s, response, ⟨_, hresponds⟩, fun path hpath' => ?_⟩ h
      cases hpath.symm.trans hpath'
  | some path =>
    obtain hfails | ⟨code, w', -, ⟨s, response, e₁, hresponds, hwritable, -⟩, -⟩ :=
      (meets_report_file (colored w.surroundings) hpath).run_cases w
    · exact hfails
    · rw [hresponds.tree_eq] at hwritable
      refine absurd ⟨s, response, ⟨_, hresponds⟩, fun path' hpath' => ?_⟩ h
      cases hpath.symm.trans hpath'
      exact hwritable

/-! ### Exit codes -/

theorem exitCode_of_completes {w w' : World} {code : ExitCode}
    (hrun : (run World.system (.report o)).run w = (code, w'))
    (h : Completes o w.surroundings s response) : code = response.outcome.exitCode ∧
      Holds o w w' (rendering o (colored w.surroundings) s response) := by
  obtain ⟨_, hreport, hholds⟩ := report_completes h
  rw [run_report, hreport] at hrun
  cases hrun
  exact ⟨rfl, hholds⟩

theorem exitCode_of_fails {w w' : World} {code : ExitCode}
    (hrun : (run World.system (.report o)).run w = (code, w'))
    (h : ¬ ∃ s response, Completes o w.surroundings s response) :
    code = .applicationError ∧ w'.output = w.output := by
  obtain ⟨_, _, hreport, hquiet⟩ := report_fails h
  rw [run_report, hreport] at hrun
  cases hrun
  exact ⟨rfl, hquiet⟩

end ScanGate.Run
