import ScanGate.Proofs.Run.Meets

/-! What each step of a run needs. The conditions are about files, variables, options and
answers and not about runs; a step succeeds exactly when its condition holds. -/
namespace ScanGate

/-! ### Conditions -/

/-- What can be read at a path is this text. -/
def Tree.Reads (t : Tree) (path text : String) : Prop :=
  ∃ content, t.read path = .ok content ∧ Text.ofUtf8? content.data = some text

/-- The text of a regular file that is small enough. -/
structure Tree.HasText (t : Tree) (path text : String) : Prop where
  regular : ∃ content, t.inspect path = .ok (.file content) ∧ content.size ≤ Files.maxText
  reads : t.Reads path text

/-- The settings of a file. -/
def Settings.In (t : Tree) (path : String) (s : Settings) : Prop :=
  ∃ text, t.HasText path text ∧ Settings.ofText text = .ok s

/-- The settings of a run, from the file that is named or that of the working directory,
which may be missing. -/
def Settings.Of (t : Tree) : Option String → Settings → Prop
  | some path, s => s.In t path
  | none, s =>
    if t.exists? (Path.join "." Settings.fileName) then s.In t (Path.join "." Settings.fileName)
    else s = {}

/-- A client for the host and the credentials that are given. -/
inductive Client.Of (c : CommandLine.Connection) (s : Settings) : Client → Prop
  | mk {host : String} {credentials : Credentials} (hhost : (c.host <|> s.host) = some host)
      (hcredentials : Run.credentials c.token c.username c.password = .ok credentials) :
      Client.Of c s (.ofHost host credentials (c.insecure || s.insecure.getD false))

/-- The id that a file hands over. -/
def ProductId.In (t : Tree) (path : String) (id : ProductId) : Prop :=
  ∃ text, t.HasText path text ∧ ProductId.ofString text = .ok id

/-- The product that is named, or the one that was kept. -/
def ProductId.Of (t : Tree) (product : CommandLine.Product) (id : ProductId) : Prop :=
  match product.id with
  | some named => id = named
  | none => id.In t IdFile.path

/-- The request of a client, with whoever the address names and the credentials. -/
def Client.request (c : Client) (method : String) (url : Url) (headers : List (String × String))
    (body : Content) : Request where
  method := method
  url := url.withoutUser.1
  headers := [("user-agent", userAgent)] ++ url.withoutUser.2 ++ headers ++
    [("authorization", c.credentials.header)]
  body := body
  verified := !c.insecure

/-- The body of the answer to a request at an address. -/
inductive Client.Exchanges (c : Client) (method address : String)
    (headers : List (String × String)) (content : Content) (e : Surroundings)
    (body : Body) (e' : Surroundings) : Prop
  | mk {url : Url} (hurl : Url.parse? address = some url)
      (hheader : isHeaderValue c.credentials.header = true)
      (hsendable : url.withoutUser.1.isSendable = true)
      (hanswer : e.Answers (c.request method url headers content) body e')

/-- The report that the service answers. -/
def Client.Fetches (c : Client) (id : ProductId) (e : Surroundings) (r : Report)
    (e' : Surroundings) : Prop :=
  ∃ body, c.Exchanges "GET" (c.reportUrl id) [("accept", "application/json")] (.zeros 0) e body e' ∧
    Report.parse body.text = .ok r

/-- The request for waivers, with whoever the address names. -/
def Source.request (url : Url) : Request where
  method := "GET"
  url := url.withoutUser.1
  headers := [("user-agent", userAgent), ("accept", "*/*")] ++ url.withoutUser.2
  body := .zeros 0

/-- The waivers that a source gives. -/
inductive Source.Provides (e : Surroundings) : Source → WaiverList → Surroundings → Prop
  | absent : Provides e .absent [] e
  | environment {name text : String} {ws : WaiverList} (htext : e.lookup? name = some text)
      (hparse : WaiverList.parse text = .ok ws) : Provides e (.environment name) ws e
  | address {address : String} {url : Url} {body : Body} {ws : WaiverList}
      {e' : Surroundings} (hurl : Url.parse? address = some url)
      (hsendable : url.withoutUser.1.isSendable = true)
      (hanswer : e.Answers (Source.request url) body e')
      (hparse : WaiverList.parse body.text = .ok ws) :
      Provides e (.address address) ws e'
  | file {path text : String} {ws : WaiverList} (htext : e.tree.HasText path text)
      (hparse : WaiverList.parse text = .ok ws) : Provides e (.file path) ws e

namespace Run

variable {α : Type} {path what text : String}

/-! ### Files -/

theorem looks_checkRegular : Looks (Files.checkRegular World.system path what) fun e size =>
    ∃ content, e.tree.inspect path = .ok (.file content) ∧ content.size = size := by
  refine (Looks.of_run (S := fun r _ size => r = .ok (.file size))
    (g := fun e => (e.tree.inspect path).map Entry.kind) (fun _ => rfl) fun r => ?_).congr ?_
  · match r with
    | .error _ | .ok .link | .ok .directory | .ok .other =>
      exact (looks_throw _).congr fun _ _ => by simp
    | .ok (.file size) => exact (looks_pure size).congr fun _ _ => by simp [eq_comm]
  · intro e size
    generalize e.tree.inspect path = r
    match r with
    | .error _ | .ok .directory | .ok (.link _) | .ok (.file _) => simp [Except.map, Entry.kind]

theorem checkSize_eq_ok_iff {size limit : Nat} {u : Unit} :
    Files.checkSize size path limit = .ok u ↔ size ≤ limit := by
  unfold Files.checkSize
  split
  · next h => simp [h]
  · next h => simpa using h

theorem looks_readText : Looks (Files.readText World.system path what) fun e text =>
    e.tree.HasText path text := by
  refine (looks_checkRegular.bind fun size => (looks_except _).bind fun _ =>
    Looks.of_run (S := fun r _ text =>
        ∃ content, r = .ok content ∧ Text.ofUtf8? content.data = some text)
      (g := fun e => e.tree.read path) (fun _ => rfl) fun r => ?_).congr ?_
  · cases r with
    | error _ => exact (looks_throw _).congr fun _ _ => by simp
    | ok content =>
      cases h : Text.ofUtf8? content.data with
      | none =>
        simp only [h]
        exact (looks_throw _).congr fun _ _ => by simp [h]
      | some text =>
        simp only [h]
        exact (looks_pure _).congr fun _ _ => by simp [h, eq_comm]
  intro e text
  simp only [checkSize_eq_ok_iff]
  constructor
  · rintro ⟨_, ⟨content, hc, rfl⟩, _, hsize, hreads⟩
    exact ⟨⟨content, hc, hsize⟩, hreads⟩
  · rintro ⟨⟨content, hc, hsize⟩, hreads⟩
    exact ⟨_, ⟨content, hc, rfl⟩, (), hsize, hreads⟩

/-! ### Settings -/

theorem looks_load : Looks (Settings.load World.system path) fun e s => s.In e.tree path := by
  refine Looks.bind (S := fun text _ s => Settings.ofText text = .ok s)
    (looks_readText.reword _) fun text => ?_
  cases Settings.ofText text with
  | ok s => exact (looks_pure _).congr fun _ _ => by simp [eq_comm]
  | error failure => cases failure <;> exact (looks_throw _).congr fun _ _ => by simp

theorem looks_discover (directory : String) :
    Looks (Settings.discover World.system directory) fun e found =>
      if e.tree.exists? (Path.join directory Settings.fileName) then
        ∃ s : Settings, s.In e.tree (Path.join directory Settings.fileName) ∧ found = some s
      else found = none := by
  refine Looks.of_run (S := fun there e found => if there then
      ∃ s : Settings, s.In e.tree (Path.join directory Settings.fileName) ∧ found = some s
    else found = none)
    (g := fun e => e.tree.exists? (Path.join directory Settings.fileName)) (fun _ => rfl)
    fun there => ?_
  cases there with
  | false => exact looks_pure none
  | true => exact looks_load.bind fun s => looks_pure (some s)

/-- Telling leaves the surroundings as they are. -/
theorem looks_tellAll (colored : Bool) (messages : List Message) :
    Looks (Gate.tellAll (tell World.system colored) messages) fun _ _ => True := by
  induction messages with
  | nil => exact (looks_pure _).congr fun _ _ => by simp
  | cons message rest ih =>
    exact ((looks_tell colored message).bind fun _ => ih).congr fun _ _ => by simp

theorem looks_loadSettings (colored : Bool) (path : Option String) :
    Looks (loadSettings World.system (tell World.system colored) path) fun e s =>
      s.Of e.tree path := by
  have hrest (s : Settings) := (looks_tellAll colored (s.unknown.map unknownWarning)).bind
    fun _ => looks_pure s
  unfold loadSettings
  simp only [Gate.forIn_tell]
  cases path with
  | some path => exact (looks_load.bind hrest).congr fun e s => by simp [Settings.Of]
  | none =>
    refine ((looks_discover ".").bind fun found =>
      (looks_pure (found.getD {})).bind hrest).congr fun e s => ?_
    simp only [Settings.Of]
    split
    · simp only [true_and, exists_const, exists_eq_left]
      constructor
      · rintro ⟨_, ⟨s, h, rfl⟩, rfl⟩
        exact h
      · exact fun h => ⟨_, ⟨s, h, rfl⟩, rfl⟩
    · simp

/-! ### The client -/

theorem looks_makeClient (colored : Bool) (c : CommandLine.Connection) (s : Settings) :
    Looks (makeClient (tell World.system colored) c s) fun _ client => Client.Of c s client := by
  cases hhost : c.host <|> s.host with
  | none =>
    unfold makeClient
    rw [hhost]
    refine (looks_throw noHost).congr fun _ _ => iff_of_false id ?_
    rintro ⟨h, -⟩
    rw [hhost] at h
    cases h
  | some host =>
    have hclient : Looks (makeClient (tell World.system colored) c s) fun _ client =>
        ∃ credentials, Run.credentials c.token c.username c.password = .ok credentials ∧
          client = .ofHost host credentials (c.insecure || s.insecure.getD false) := by
      have hrest (insecure : Bool) :=
        (looks_except (Run.credentials c.token c.username c.password)).bind fun credentials =>
          looks_pure (Client.ofHost host credentials insecure)
      unfold makeClient
      rw [hhost]
      cases c.insecure || s.insecure.getD false with
      | true =>
        refine ((looks_tell colored insecureWarning).bind fun _ => hrest true).congr ?_
        simp
      | false => exact hrest false
    refine hclient.congr fun _ client => ⟨?_, ?_⟩
    · rintro ⟨credentials, hcredentials, rfl⟩
      exact .mk hhost hcredentials
    · rintro ⟨hhost', hcredentials⟩
      obtain rfl := Option.some.inj (hhost.symm.trans hhost')
      exact ⟨_, hcredentials, rfl⟩

/-! ### The product -/

theorem looks_loadId : Looks (IdFile.load World.system path) fun e id => id.In e.tree path := by
  refine Looks.bind (S := fun text _ id => ProductId.ofString text = .ok id)
    (looks_readText.reword _) fun text => ?_
  cases ProductId.ofString text with
  | ok id => exact (looks_pure id).congr fun _ _ => by simp [eq_comm]
  | error _ => exact (looks_throw _).congr fun _ _ => by simp

theorem looks_chooseProduct (product : CommandLine.Product) :
    Looks (chooseProduct World.system product) fun e id => id.Of e.tree product := by
  unfold chooseProduct
  simp only [ProductId.Of]
  cases product.id with
  | some id => exact looks_pure id
  | none => exact looks_loadId

/-! ### Answers -/

/-- An answer in full with a status of 200 to 299, and nothing else, is taken for its body. -/
theorem meets_answer {request : Request}
    {f : Reply → ExceptT Failure (StateM World) α}
    {S : Body → α → Prop}
    (hsilent : Looks (f .unreachable) fun _ _ => False)
    (hanswer : ∀ code body complete, Looks (f (.answered code body complete)) fun _ a =>
      (200 ≤ code ∧ code < 300 ∧ complete = true) ∧ S body a) :
    Meets (liftM (World.send request) >>= f) fun e a e' =>
      ∃ body, e.Answers request body e' ∧ S body a := by
  refine ((meets_send request).bind (R := fun reply e a e' => (∃ code body,
    reply = .answered code body true ∧ 200 ≤ code ∧ code < 300 ∧ S body a) ∧ e' = e)
    fun reply => ?_).congr ?_
  · cases reply with
    | unreachable => exact hsilent.congr fun _ _ => by simp
    | answered code body complete =>
      refine (hanswer code body complete).congr fun _ _ => ⟨?_, ?_⟩
      · rintro ⟨⟨hlow, hhigh, rfl⟩, hs⟩
        exact ⟨code, body, rfl, hlow, hhigh, hs⟩
      · rintro ⟨_, _, ⟨⟩, hlow, hhigh, hs⟩
        exact ⟨⟨hlow, hhigh, rfl⟩, hs⟩
  · intro e a e'
    constructor
    · rintro ⟨_, _, hsends, ⟨code, body, rfl, hlow, hhigh, hs⟩, rfl⟩
      obtain ⟨ho, hr⟩ := hsends
      exact ⟨body, .mk ho hr hlow hhigh, hs⟩
    · rintro ⟨body, ⟨ho, hr, hlow, hhigh⟩, hs⟩
      exact ⟨_, _, .answered ho hr, ⟨_, body, rfl, hlow, hhigh, hs⟩, rfl⟩

theorem looks_answered {code : Nat} {complete : Bool} {refused incomplete : Failure} {a : α} :
    Looks (if code < 200 ∨ 300 ≤ code then throw refused
      else if complete then pure a else throw incomplete)
      fun _ b => (200 ≤ code ∧ code < 300 ∧ complete = true) ∧ b = a := by
  by_cases hcode : code < 200 ∨ 300 ≤ code
  · rw [if_pos hcode]
    exact (looks_throw refused).congr fun _ _ => iff_of_false id (by omega)
  · rw [if_neg hcode]
    have hcode : 200 ≤ code ∧ code < 300 := by omega
    cases complete with
    | false => exact (looks_throw incomplete).congr fun _ _ => by simp
    | true => exact (looks_pure a).congr fun _ _ => by simp [hcode]

theorem meets_exchange (c : Client) (operation method address : String)
    (headers : List (String × String)) (content : Content) :
    Meets (c.exchange World.system operation method address headers content) fun e body e' =>
      c.Exchanges method address headers content e body e' := by
  unfold Client.exchange
  cases hurl : Url.parse? address with
  | none =>
    refine (meets_throw _).congr fun _ _ _ => iff_of_false id ?_
    rintro ⟨h, -, -, -⟩
    cases hurl.symm.trans h
  | some url =>
    refine Meets.congr (Meets.provided (Meets.provided
      (meets_answer (looks_throw _) fun _ _ _ => looks_answered))) fun e body e' => ⟨?_, ?_⟩
    · rintro ⟨hheader, hsendable, _, hanswer, rfl⟩
      exact .mk hurl hheader hsendable hanswer
    · rintro ⟨hurl', hheader, hsendable, hanswer⟩
      cases hurl.symm.trans hurl'
      exact ⟨hheader, hsendable, _, hanswer, rfl⟩

theorem meets_report (c : Client) (id : ProductId) :
    Meets (c.report World.system id) fun e r e' => c.Fetches id e r e' :=
  ((meets_exchange c _ _ _ _ _).bind fun body => looks_except _).congr fun e r e' => by
    constructor
    · rintro ⟨body, _, hanswer, hparse, rfl⟩
      exact ⟨body, hanswer, hparse⟩
    · rintro ⟨body, hanswer, hparse⟩
      exact ⟨body, _, hanswer, hparse, rfl⟩

/-! ### Waivers -/

theorem eq_of_choose_eq_environment {name url path configured : Option String} {chosen : String}
    (h : Source.choose name url path configured = .environment chosen) : name = some chosen := by
  unfold Source.choose at h
  split at h <;> cases h
  rfl

theorem eq_of_choose_eq_address {name url path configured : Option String} {chosen : String}
    (h : Source.choose name url path configured = .address chosen) : url = some chosen := by
  unfold Source.choose at h
  split at h <;> cases h
  rfl

theorem eq_of_choose_eq_file {name url path configured : Option String} {chosen : String}
    (h : Source.choose name url path configured = .file chosen) :
    (path <|> configured) = some chosen := by
  unfold Source.choose at h
  split at h <;> cases h
  assumption

theorem meets_fetch (address : String) :
    Meets (Source.fetch World.system address) fun e text e' =>
      ∃ url body, Url.parse? address = some url ∧ url.withoutUser.1.isSendable = true ∧
        e.Answers (Source.request url) body e' ∧ text = body.text := by
  unfold Source.fetch
  cases hurl : Url.parse? address with
  | none => exact (meets_throw _).congr fun _ _ _ => by simp
  | some url =>
    refine Meets.congr (Meets.provided
      (meets_answer (looks_throw _) fun _ _ _ => looks_answered)) fun e text e' => ⟨?_, ?_⟩
    · rintro ⟨hsendable, body, hanswer, htext⟩
      exact ⟨url, body, rfl, hsendable, hanswer, htext⟩
    · rintro ⟨_, body, ⟨⟩, hsendable, hanswer, htext⟩
      exact ⟨hsendable, body, hanswer, htext⟩

/-- The waivers of the text behind a source. -/
theorem meets_loadSource_of (source : Source) {P : Surroundings → String → Surroundings → Prop}
    (hread : Meets (Source.readText World.system source) fun e found e' =>
      ∃ text, P e text e' ∧ found = some text) :
    Meets (Source.load World.system source) fun e ws e' =>
      ∃ text, P e text e' ∧ WaiverList.parse text = .ok ws := by
  refine Meets.congr ((hread.reword _).bind (R := fun found e ws e' =>
    found.elim (ws = []) (fun text => WaiverList.parse text = .ok ws) ∧ e' = e) fun found => ?_)
    fun e ws e' => ⟨?_, ?_⟩
  · cases found with
    | none => exact looks_pure []
    | some text =>
      simp only
      cases h : WaiverList.parse text with
      | ok ws => exact (looks_pure ws).congr fun _ _ => by simp [h, eq_comm]
      | error _ => exact (looks_throw _).congr fun _ _ => by simp [h]
  · rintro ⟨_, _, ⟨text, hp, rfl⟩, hws, rfl⟩
    exact ⟨text, hp, hws⟩
  · rintro ⟨text, hp, hws⟩
    exact ⟨_, _, ⟨text, hp, rfl⟩, hws, rfl⟩

theorem meets_readVariable (name : String) :
    Meets (Source.readText World.system (.environment name)) fun e found e' =>
      ∃ text, (e.lookup? name = some text ∧ e' = e) ∧ found = some text := by
  have hlooks : Looks (Source.readText World.system (.environment name)) fun e found =>
      ∃ text, e.lookup? name = some text ∧ found = some text := by
    refine Looks.of_run (S := fun value _ found => ∃ text, value = some text ∧ found = some text)
      (g := fun e => e.lookup? name) (fun _ => rfl) fun value => ?_
    cases value with
    | none => exact (looks_throw _).congr fun _ _ => by simp
    | some text => exact (looks_pure (some text)).congr fun _ _ => by simp
  refine Meets.congr hlooks fun e found e' => ?_
  rw [← exists_and_right]
  exact exists_congr fun _ => and_right_comm

theorem meets_loadSource (source : Source) :
    Meets (Source.load World.system source) fun e ws e' => source.Provides e ws e' := by
  cases source with
  | absent =>
    have hnone : Looks (Source.load World.system .absent) fun _ ws => ws = [] := looks_pure []
    refine Meets.congr hnone fun e ws e' => ⟨?_, ?_⟩
    · rintro ⟨rfl, rfl⟩
      exact .absent
    · rintro ⟨⟩
      exact ⟨rfl, rfl⟩
  | environment name =>
    refine (meets_loadSource_of (.environment name)
      (meets_readVariable name)).congr fun e ws e' => ⟨?_, ?_⟩
    · rintro ⟨text, ⟨htext, rfl⟩, hparse⟩
      exact .environment htext hparse
    · intro h
      cases h with
      | environment htext hparse => exact ⟨_, ⟨htext, rfl⟩, hparse⟩
  | address address =>
    refine (meets_loadSource_of (.address address)
      ((meets_fetch address).map some)).congr fun e ws e' => ⟨?_, ?_⟩
    · rintro ⟨_, ⟨url, body, hurl, hsendable, hanswer, rfl⟩, hparse⟩
      exact .address hurl hsendable hanswer hparse
    · intro h
      cases h with
      | address hurl hsendable hanswer hparse =>
        exact ⟨_, ⟨_, _, hurl, hsendable, hanswer, rfl⟩, hparse⟩
  | file path =>
    refine (meets_loadSource_of (.file path)
      (looks_readText.map some)).congr fun e ws e' => ⟨?_, ?_⟩
    · rintro ⟨text, ⟨htext, rfl⟩, hparse⟩
      exact .file htext hparse
    · intro h
      cases h with
      | file htext hparse => exact ⟨_, ⟨htext, rfl⟩, hparse⟩

theorem meets_loadWaivers (colored : Bool) (source : Source) :
    Meets (Gate.loadWaivers (Source.load World.system) (tell World.system colored) source)
      fun e ws e' => source.Provides e ws e' := by
  by_cases ha : source = .absent
  · subst ha
    rw [Gate.loadWaivers_absent]
    exact meets_loadSource .absent
  · rw [Gate.loadWaivers_eq _ _ ha]
    refine ((looks_tell colored _).look_bind fun _ => (meets_loadSource source).bind fun ws =>
      (looks_tellAll colored (Gate.loaded source ws)).bind fun _ => looks_pure ws).congr ?_
    simp

/-! ### The response -/

theorem meets_run (colored : Bool) (c : Client) (request : Gate.Request) :
    Meets (Gate.run (c.service World.system) (Source.load World.system)
      (tell World.system colored) request) fun e response e' =>
      ∃ ws e₁ r, request.source.Provides e ws e₁ ∧ c.Fetches request.product e₁ r e' ∧
        response = Gate.respond request (c.productUrl request.product) r ws := by
  rw [Gate.run_eq]
  refine ((meets_loadWaivers colored request.source).bind fun ws =>
    (looks_tell colored _).look_bind fun _ => (meets_report c request.product).bind fun r =>
      (looks_tellAll colored _).bind fun _ => looks_pure _).congr fun e response e' => ⟨?_, ?_⟩
  · rintro ⟨ws, e₁, hws, -, -, r, _, hr, ⟨-, -, rfl⟩, rfl⟩
    exact ⟨ws, e₁, r, hws, hr, rfl⟩
  · rintro ⟨ws, e₁, r, hws, hr, rfl⟩
    exact ⟨ws, e₁, hws, (), trivial, r, e', hr, ⟨(), trivial, rfl⟩, rfl⟩

end Run

end ScanGate
