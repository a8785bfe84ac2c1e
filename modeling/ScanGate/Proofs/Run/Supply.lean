import ScanGate.Proofs.Gate.Calls
import ScanGate.Proofs.Run.Ending
import ScanGate.Proofs.Run.Mirror
import ScanGate.Proofs.Run.Source

/-! What a run for a report does before it asks the service: settings and client, the product, and
the waivers. Only the request for the waivers is sent, and if the source does not give them as a
whole, the run ends there. -/
namespace ScanGate.Run

open CommandLine (ReportOptions)
open Gate (Gives Fails gives_bind fails_bind gives_or_fails ask)
open Recording

variable {σ α : Type}

/-- The system with its requests written down. -/
def recording (s : System (StateM σ)) : System (StateM (σ × List Request)) where
  lookup? name := aside (s.lookup? name)
  inspect path := aside (s.inspect path)
  exists? path := aside (s.exists? path)
  read path := aside (s.read path)
  write path data := aside (s.write path data)
  send q := noted q (s.send q)
  output text := aside (s.output text)
  error text := aside (s.error text)

/-! ### Nothing but the request for the waivers -/

/-- What only reads and tells is in step with the same on the system that writes requests down, and
none are. -/
theorem reflects_recording (s : System (StateM σ)) (done : List Request) :
    Reflects (fun st t => t = (st, done)) s (recording s) where
  lookup _ := by rintro st _ rfl; exact ⟨rfl, rfl⟩
  inspect _ := by rintro st _ rfl; exact ⟨rfl, rfl⟩
  exists? _ := by rintro st _ rfl; exact ⟨rfl, rfl⟩
  read _ := by rintro st _ rfl; exact ⟨rfl, rfl⟩
  output _ := by rintro st _ rfl; exact ⟨rfl, rfl⟩
  error _ := by rintro st _ rfl; exact ⟨rfl, rfl⟩

theorem recorded_of_inStep {x : ExceptT Failure (StateM σ) α}
    {y : ExceptT Failure (StateM (σ × List Request)) α}
    (h : ∀ done, InStep (fun st t => t = (st, done)) x y) : Recorded (· = []) x y := by
  intro st done
  obtain ⟨hend, hstate⟩ := h done st (st, done) rfl
  refine ⟨[], rfl, Prod.ext hend.symm ?_⟩
  rw [List.append_nil]
  exact hstate

/-- What is sent for the waivers at an address: nothing, or the one request for them. -/
def Wanted (address : Option String) (sent : List Request) : Prop :=
  sent = [] ∨ ∃ text url, address = some text ∧ Url.parse? text = some url ∧
    sent = [Source.request url]

theorem recorded_fetch (s : System (StateM σ)) (address : String) :
    Recorded (Wanted (some address)) (Source.fetch s address)
      (Source.fetch (recording s) address) := by
  unfold Source.fetch
  cases hurl : Url.parse? address with
  | none => exact (recorded_throw _).mono fun _ => .inl
  | some url =>
    refine Recorded.provided (Recorded.mono (P := (· = [Source.request url]))
      ((recorded_noted _ _).bind_nil fun reply => ?_)
      fun _ hks => .inr ⟨address, url, rfl, hurl, hks⟩) (.inl rfl)
    cases reply with
    | unreachable => exact recorded_throw _
    | answered code body complete =>
      by_cases hcode : code < 200 ∨ 300 ≤ code
      · simp only [if_pos hcode]
        exact recorded_throw _
      · simp only [if_neg hcode]
        cases complete with
        | true => exact recorded_pure _
        | false => exact recorded_throw _

theorem recorded_load (s : System (StateM σ)) {source : Source} {address : Option String}
    (haddress : ∀ text, source = .address text → address = some text) :
    Recorded (Wanted address) (Source.load s source) (Source.load (recording s) source) := by
  have hread : Recorded (Wanted address) (Source.readText s source)
      (Source.readText (recording s) source) := by
    cases source with
    | absent => exact (recorded_pure none).mono fun _ => .inl
    | environment name =>
      refine Recorded.aside_bind fun value => ?_
      cases value with
      | some text => exact (recorded_pure _).mono fun _ => .inl
      | none => exact (recorded_throw _).mono fun _ => .inl
    | address text =>
      obtain rfl := haddress text rfl
      exact (recorded_fetch s text).map some
    | file path =>
      exact ((recorded_of_inStep fun done => inStep_readText (reflects_recording s done)).mono
        fun _ => .inl).map some
  refine (hread.reword _).bind_nil fun found => ?_
  cases found with
  | none => exact recorded_pure []
  | some text =>
    simp only
    cases WaiverList.parse text with
    | ok ws => exact recorded_pure ws
    | error _ => exact recorded_throw _

/-! ### Before the service is asked -/

/-- The part of a run before the service is asked. -/
def supply {m : Type → Type} [Monad m] (s : System m) (colored : Bool) (o : ReportOptions) :
    ExceptT Failure m (Settings × Client × Gate.Request × WaiverList) := do
  let (settings, client) ← prepare s (tell s colored) o.connection
  let product ← chooseProduct s o.product
  let request := request o settings product
  let ws ← Gate.loadWaivers (Source.load s) (tell s colored) request.source
  return (settings, client, request, ws)

/-- With the waivers the service is asked, and its answer is delivered. -/
theorem report_eq_supply {m : Type → Type} [Monad m] [LawfulMonad m] (s : System m)
    (colored : Bool) (o : ReportOptions) : report s colored o =
      supply s colored o >>= fun (settings, client, request, ws) =>
        ask (client.service s) (tell s colored) request ws >>= deliver s colored o settings := by
  rw [report_eq]
  unfold respond supply
  simp only [Gate.run_eq_ask, bind_assoc, pure_bind]

theorem recorded_supply (s : System (StateM σ)) (colored : Bool) (o : ReportOptions) :
    Recorded (Wanted o.exceptUrl) (supply s colored o) (supply (recording s) colored o) := by
  have hprepare : Recorded (· = []) (prepare s (tell s colored) o.connection)
      (prepare (recording s) (tell (recording s) colored) o.connection) :=
    recorded_of_inStep fun done => inStep_prepare (reflects_recording s done) o.connection
  have hproduct := recorded_of_inStep fun done =>
    inStep_chooseProduct (reflects_recording s done) o.product
  refine hprepare.nil_bind (fun p => hproduct.nil_bind (fun product => ?_) (.inl rfl)) (.inl rfl)
  refine Recorded.bind_nil ?_ fun _ => recorded_pure _
  generalize hsource : (request o p.1 product).source = source
  by_cases ha : source = .absent
  · subst ha
    rw [Gate.loadWaivers_absent, Gate.loadWaivers_absent]
    exact (recorded_pure []).mono fun _ => .inl
  · rw [Gate.loadWaivers_eq _ _ ha, Gate.loadWaivers_eq _ _ ha]
    exact .aside_bind fun _ => (recorded_load s fun text htext =>
      eq_of_choose_eq_address (hsource.trans htext)).bind_nil fun ws =>
        (recorded_tellAll _ _).bind_nil fun _ => recorded_pure ws

/-! ### The end of a run -/

/-- There are settings, a client and a product, and the source, if there is one, gives its waivers
as a whole when it is asked. -/
inductive Supplied (s : System (StateM σ)) (o : ReportOptions) (st : σ) : Prop
  | mk {colored : Bool} {settings : Settings} {client : Client} {product : ProductId}
      {st₀ st₁ st₂ : σ} (hcolored : (isColored s).run st = (colored, st₀))
      (hprepare : Gives (prepare s (tell s colored) o.connection) st₀ (settings, client) st₁)
      (hproduct : Gives (chooseProduct s o.product) st₁ product st₂)
      (hwaivers : (request o settings product).source ≠ .absent → ∃ ws st₃,
        (request o settings product).source.Applies s
          ((tell s colored (Gate.loading (request o settings product).source)).run st₂).2 ws st₃) :
      Supplied s o st

theorem applies_of_loads {s : System (StateM σ)} {source : Source} {say : Message → StateM σ Unit}
    {st : σ} {ws : WaiverList} (ha : source ≠ .absent)
    (h : Gate.Loads (Source.load s) say source st ws) :
    ∃ st', source.Applies s ((say (Gate.loading source)).run st).2 ws st' := by
  rw [Gate.Loads, if_neg ha] at h
  obtain ⟨st', hload⟩ := h
  exact ⟨st', (Source.gives_load ha).mp hload⟩

theorem supplied_of_gives {s : System (StateM σ)} {o : ReportOptions} {st st₀ st' : σ}
    {colored : Bool} {a : Settings × Client × Gate.Request × WaiverList}
    (hcolored : (isColored s).run st = (colored, st₀)) (h : Gives (supply s colored o) st₀ a st') :
    Supplied s o st := by
  obtain ⟨⟨settings, client⟩, st₁, hprepare, h⟩ := gives_bind.mp h
  obtain ⟨product, st₂, hproduct, h⟩ := gives_bind.mp h
  obtain ⟨ws, st₃, hws, -⟩ := gives_bind.mp h
  exact .mk hcolored hprepare hproduct fun ha =>
    ⟨ws, applies_of_loads ha (Gate.loads_of_gives hws)⟩

/-- A failure is explained, and the exit code is that of a failure. -/
theorem run_of_fails {s : System (StateM σ)} {c : CommandLine.Command} {st st₀ st₁ : σ}
    {colored : Bool} {failure : Failure} (hcolored : (isColored s).run st = (colored, st₀))
    (h : Fails (command s colored c) st₀ failure st₁) :
    (run s c).run st = (.applicationError, ((s.error (explain failure)).run st₁).2) := by
  unfold run
  rw [StateT.run_bind, hcolored]
  change StateT.run ((command s colored c).run >>= _) st₀ = _
  rw [StateT.run_bind, h]
  rfl

/-- A source is applied as a whole or not at all. What it gives is all the text behind it, read as
a document whose list has these waivers entry by entry; if there is anything else behind it, the
failure names it. A response of the gate is decided with just these waivers. A run for a report
that has not all it needs, the waivers as a whole among it, ends with the exit code of a failure,
and has sent at most the request for the waivers. -/
theorem applied_whole (s : System (StateM σ)) :
    (∀ source, source ≠ .absent → ∀ st,
      (∀ ws st', Gives (Source.load s source) st ws st' ↔ source.Applies s st ws st') ∧
      ((¬ ∃ ws st', source.Applies s st ws st') → ∃ details st',
        Fails (Source.load s source) st (.source source.text details) st')) ∧
    (∀ service say (request : Gate.Request) st response st', request.source ≠ .absent →
      Gives (Gate.run service (Source.load s) say request) st response st' → ∃ ws r st₁,
        request.source.Applies s ((say (Gate.loading request.source)).run st).2 ws st₁ ∧
        Gate.Asks service (Source.load s) say request st ws (.ok r) ∧
        Gate.Concludes request r ws response) ∧
    ∀ o st, ¬ Supplied s o st → ∃ st' sent,
      (run s (.report o)).run st = (.applicationError, st') ∧
      (run (recording s) (.report o)).run (st, []) = (.applicationError, (st', sent)) ∧
      Wanted o.exceptUrl sent := by
  refine ⟨fun source ha st => ⟨fun ws st' => Source.gives_load ha, Source.load_fails ha⟩, ?_, ?_⟩
  · intro service say request st response st' ha h
    obtain ⟨ws, r, hloads, hasks, hconcludes⟩ := Gate.concludes_of_gives h
    obtain ⟨st₁, happlies⟩ := applies_of_loads ha hloads
    exact ⟨ws, r, st₁, happlies, hasks, hconcludes⟩
  intro o st h
  rcases hcolored : (isColored s).run st with ⟨colored, st₀⟩
  obtain ⟨a, st₁, hgives⟩ | ⟨failure, st₁, hfails⟩ := gives_or_fails (supply s colored o) st₀
  · exact absurd (supplied_of_gives hcolored hgives) h
  obtain ⟨sent, hsent, hrecorded⟩ := recorded_supply s colored o st₀ []
  have hcommand : Fails (command s colored (.report o)) st₀ failure st₁ := by
    change Fails (report s colored o) st₀ failure st₁
    rw [report_eq_supply]
    exact fails_bind.mpr (.inl hfails)
  have hrecording : Fails (command (recording s) colored (.report o)) (st₀, []) failure
      (st₁, sent) := by
    change Fails (report (recording s) colored o) (st₀, []) failure (st₁, sent)
    rw [report_eq_supply]
    refine fails_bind.mpr (.inl ?_)
    rw [hfails] at hrecorded
    exact hrecorded
  refine ⟨_, sent, run_of_fails hcolored hcommand, ?_, hsent⟩
  have hcolored' : (isColored (recording s)).run (st, []) =
      (((isColored s).run st).1, ((isColored s).run st).2, []) := rfl
  rw [hcolored] at hcolored'
  rw [run_of_fails hcolored' hrecording]
  rfl

/-- A system without files, variables and connections. -/
def bare : System (StateM Unit) where
  lookup? _ := pure none
  inspect _ := pure (.error .notFound)
  exists? _ := pure false
  read _ := pure (.error .notFound)
  write _ _ := pure (.error .denied)
  send _ := pure .unreachable
  output _ := pure ()
  error _ := pure ()

def unsetOptions : ReportOptions where
  connection := { host := some "h", token := some "t" }
  product := { id := some ⟨"1"⟩ }
  exceptVariable := some "WAIVERS"

/-- A list without waivers, with a byte order mark in front. -/
def markedList : Body where
  bytes := ("\uFEFF" ++ "\x7b\"exceptions\": []\x7d").toUTF8

theorem parse_markedList : WaiverList.parse markedList.text = .ok [] := by decide +kernel

/-- The same system with this answer to every request. -/
def listing : System (StateM Unit) :=
  { bare with send _ := pure (.answered 200 markedList true) }

/-- The mark is no part of the list. A variable that is not set ends the run, and nothing is
sent. -/
theorem applied_whole_sample :
    Gives (Source.load listing (.address "https://e/list")) () [] () ∧
    (∃ details st', Fails (Source.load bare (.environment "WAIVERS")) ()
      (.source "environment variable WAIVERS" details) st') ∧
    ∃ st', (run (recording bare) (.report unsetOptions)).run ((), []) =
      (.applicationError, (st', [])) := by
  have hurl : (Url.parse? "https://e/list").any (·.withoutUser.1.isSendable) := by
    decide +kernel
  obtain ⟨url, hparse, hsendable⟩ := (Option.any_eq_true _ _).mp hurl
  have hlist : Source.Applies listing (.address "https://e/list") () [] () :=
    ⟨_, .address hparse hsendable rfl (by decide), WaiverList.parse_eq_ok_iff.mp parse_markedList⟩
  have hnothing (st : Unit) : ¬ ∃ ws st', Source.Applies bare (.environment "WAIVERS") st ws st' := by
    rintro ⟨ws, st', text, ⟨hset⟩, -⟩
    cases hset
  obtain ⟨hload, -, hrun⟩ := applied_whole bare
  refine ⟨(((applied_whole listing).1 _ (by decide) ()).1 _ _).mpr hlist,
    (hload _ (by decide) ()).2 (hnothing ()), ?_⟩
  obtain ⟨st', sent, -, hrecorded, rfl | ⟨_, _, ⟨⟩, -⟩⟩ := hrun unsetOptions () (by
    rintro ⟨-, -, -, hwaivers⟩
    exact hnothing _ (hwaivers nofun))
  exact ⟨st', hrecorded⟩

end ScanGate.Run
