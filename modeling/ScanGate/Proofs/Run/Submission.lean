import ScanGate.Proofs.ProductId
import ScanGate.Proofs.Run.Steps

/-! What a submission needs, up to the id of the new product. The file to be uploaded has to be
a regular one, the service has to answer in full, and its answer has to name a product; the id
is kept if that is wanted, in a file that can be written. -/
namespace ScanGate

/-- The file at a path can be uploaded under this name. -/
structure Tree.Uploads (t : Tree) (path name : String) (content : Content) : Prop where
  regular : ∃ found, t.inspect path = .ok (.file found) ∧ found.size ≤ Files.maxUpload
  name : Path.fileName? path = some name
  reads : t.read path = .ok content

/-- The request that submits a target: method, address, headers and body. -/
inductive Client.Carries (c : Client) (t : Tree) (headers : List (String × String)) :
    Target → String → String → List (String × String) → Content → Prop
  | file {path name : String} {content : Content} (h : t.Uploads path name content) :
      Carries c t headers (.file path) "PUT" (c.uploadUrl name)
        (("accept", "*/*") :: headers ++
          [("delete-binary", "true"), ("content-length", toString content.size)]) content
  | url {address : String} (h : isHeaderValue address = true) :
      Carries c t headers (.url address) "POST" c.fetchUrl
        (("accept", "*/*") :: headers ++ [("url", address)]) (.zeros 0)

/-- The service takes the target and names its product. -/
inductive Client.Submits (c : Client) (target : Target) (group : String) (e : Surroundings)
    (id : ProductId) (e' : Surroundings) : Prop
  | mk {method address : String} {headers all : List (String × String)} {content : Content}
      {body : Body} (hheaders : Client.submitHeaders group = .ok headers)
      (hcarries : c.Carries e.tree headers target method address all content)
      (hanswer : c.Exchanges method address all content e body e')
      (hid : ProductId.parse body.text = .ok id)

/-- The target that a scan is about. -/
def CommandLine.ScanOptions.target? (o : CommandLine.ScanOptions) : Option Target :=
  (o.file.map Target.file) <|> (o.url.map Target.url)

namespace Run

open CommandLine (ScanOptions)

variable {path : String}

/-! ### Submitting -/

theorem looks_openUpload : Looks (Client.openUpload World.system path) fun e r =>
    e.tree.Uploads path r.1 r.2 := by
  refine (looks_checkRegular.bind fun size => (looks_except _).bind (S := fun _ e r =>
    Path.fileName? path = some r.1 ∧ e.tree.read path = .ok r.2) fun _ => ?_).congr fun e r => ?_
  · cases h : Path.fileName? path with
    | none => exact (looks_throw _).congr fun _ _ => by simp
    | some name =>
      refine Looks.of_run (S := fun r _ (found : String × Content) =>
        some name = some found.1 ∧ r = .ok found.2) (g := fun e => e.tree.read path)
        (fun _ => rfl) fun r => ?_
      cases r with
      | ok content =>
        refine (looks_pure (name, content)).congr fun e found => ?_
        simp only [Prod.ext_iff, Option.some.injEq, Except.ok.injEq, eq_comm]
      | error _ => exact (looks_throw _).congr fun _ _ => by simp
  · simp only [checkSize_eq_ok_iff]
    constructor
    · rintro ⟨_, ⟨found, hfound, rfl⟩, _, hsize, hname, hreads⟩
      exact ⟨⟨found, hfound, hsize⟩, hname, hreads⟩
    · rintro ⟨⟨found, hfound, hsize⟩, hname, hreads⟩
      exact ⟨_, ⟨found, hfound, rfl⟩, (), hsize, hname, hreads⟩

/-- The product that the service names in its answer. -/
theorem meets_named (c : Client) (operation method address : String)
    (headers : List (String × String)) (content : Content) :
    Meets (do
      let body ← c.exchange World.system operation method address headers content
      liftM (ProductId.parse body.text)) fun e id e' =>
      ∃ body, c.Exchanges method address headers content e body e' ∧
        ProductId.parse body.text = .ok id :=
  ((meets_exchange c _ _ _ _ _).bind fun body => looks_except _).congr fun e id e' => by
    constructor
    · rintro ⟨body, _, hanswer, hid, rfl⟩
      exact ⟨body, hanswer, hid⟩
    · rintro ⟨body, hanswer, hid⟩
      exact ⟨body, _, hanswer, hid, rfl⟩

theorem meets_submit (c : Client) (target : Target) (group : String) :
    Meets (c.submit World.system target group) fun e id e' => c.Submits target group e id e' := by
  cases target with
  | file path =>
    refine Meets.congr ((looks_except (Client.submitHeaders group)).look_bind fun headers =>
      looks_openUpload.look_bind fun r => meets_named c _ _ _ _ _) fun e id e' => ⟨?_, ?_⟩
    · rintro ⟨headers, hheaders, _, hupload, body, hanswer, hid⟩
      exact .mk hheaders (.file hupload) hanswer hid
    · rintro ⟨hheaders, hcarries, hanswer, hid⟩
      cases hcarries with
      | file hupload => exact ⟨_, hheaders, (_, _), hupload, _, hanswer, hid⟩
  | url address =>
    refine Meets.congr ((looks_except (Client.submitHeaders group)).look_bind fun headers =>
      Meets.provided (meets_named c _ _ _ _ _)) fun e id e' => ⟨?_, ?_⟩
    · rintro ⟨headers, hheaders, haddress, body, hanswer, hid⟩
      exact .mk hheaders (.url haddress) hanswer hid
    · rintro ⟨hheaders, hcarries, hanswer, hid⟩
      cases hcarries with
      | url haddress => exact ⟨_, hheaders, haddress, _, hanswer, hid⟩

/-! ### Keeping the id -/

theorem meets_save (id : ProductId) :
    Meets (IdFile.save World.system path id) fun e _ e' =>
      ∃ t', e.tree.write path id.text.toUTF8 = .ok t' ∧ e' = { e with tree := t' } :=
  meets_write_bind ((looks_pure ()).congr fun _ _ => by simp) fun _ => looks_throw _

/-- The id is written to its file if it is to be kept. -/
def Keeps (keep : Bool) (id : ProductId) (e e' : Surroundings) : Prop :=
  if keep then ∃ t', e.tree.write IdFile.path id.text.toUTF8 = .ok t' ∧ e' = { e with tree := t' }
  else e' = e

theorem meets_submission (colored : Bool) (c : Client) (request : Submission.Request) :
    Meets (Submission.run (c.service World.system) (IdFile.save World.system IdFile.path)
      (tell World.system colored) request) fun e id e' =>
      ¬ (Text.trimChars request.group.toList).isEmpty = true ∧
        ∃ e₁, c.Submits request.target (Text.trim request.group) e id e₁ ∧
          Keeps request.keep id e₁ e' := by
  have hend (id : ProductId) := (looks_tell colored (.completion "✅ Scan submitted")).bind
    fun _ => looks_pure id
  unfold Submission.run
  by_cases hgroup : (Text.trimChars request.group.toList).isEmpty = true
  · rw [if_pos hgroup]
    exact (meets_throw _).congr fun _ _ _ => by simp [hgroup]
  · rw [if_neg hgroup]
    refine Meets.congr ((looks_tell colored _).look_bind fun _ =>
      (meets_submit c request.target (Text.trim request.group)).bind
        (R := fun id e id' e' => id' = id ∧ Keeps request.keep id e e') fun id => ?_)
      fun e id e' => ⟨?_, ?_⟩
    · unfold Keeps
      cases request.keep with
      | true =>
        refine Meets.congr ((looks_tell colored _).look_bind fun _ => (meets_save id).bind
          fun _ => (looks_tell colored _).look_bind fun _ => hend id) fun e id' e' => ?_
        simp only [exists_const, true_and, if_true]
        constructor
        · rintro ⟨_, ⟨t', ht, rfl⟩, rfl, rfl⟩
          exact ⟨rfl, t', ht, rfl⟩
        · rintro ⟨rfl, t', ht, rfl⟩
          exact ⟨_, ⟨t', ht, rfl⟩, rfl, rfl⟩
      | false =>
        refine Meets.congr ((looks_tell colored _).look_bind fun _ => hend id) fun e id' e' => ?_
        simp
    · rintro ⟨-, -, _, e₁, hsubmits, rfl, hkeeps⟩
      exact ⟨hgroup, e₁, hsubmits, hkeeps⟩
    · rintro ⟨-, e₁, hsubmits, hkeeps⟩
      exact ⟨(), trivial, id, e₁, hsubmits, rfl, hkeeps⟩

/-! ### The run -/

/-- Every step of a scan succeeds up to the id of the new product: there are settings, a client,
a target and a group, and the service takes the target. -/
inductive Submits (o : ScanOptions) (e : Surroundings) : ProductId → Surroundings → Prop
  | mk {s : Settings} {client : Client} {target : Target} {group : String} {id : ProductId}
      {e' : Surroundings} (hsettings : s.Of e.tree o.connection.config)
      (hclient : Client.Of o.connection s client) (htarget : o.target? = some target)
      (hgroup : group = (o.group <|> s.group).getD "")
      (hnonempty : ¬ (Text.trimChars group.toList).isEmpty = true)
      (hsubmits : client.Submits target (Text.trim group) e id e') : Submits o e id e'

/-- A scan needs a target. -/
def chooseTarget {m : Type → Type} [Monad m] (o : ScanOptions) : ExceptT Failure m Target :=
  match o.target? with
  | some target => pure target
  | none => throw .noTarget

/-- The part of a scan before anything is written to the output stream. -/
def submitScan {m : Type → Type} [Monad m] (s : System m) (colored : Bool) (o : ScanOptions) :
    ExceptT Failure m ProductId := do
  let (settings, client) ← prepare s (tell s colored) o.connection
  let target ← chooseTarget o
  Submission.run (client.service s) (IdFile.save s IdFile.path) (tell s colored)
    { target, group := (o.group <|> settings.group).getD "", keep := o.saveId }

theorem scan_eq (s : System (StateM World)) (colored : Bool) (o : ScanOptions) :
    scan s colored o = submitScan s colored o >>= fun id => do
      s.output ("Product ID: " ++ id.text ++ "\n")
      return .success := by
  unfold scan submitScan chooseTarget ScanOptions.target?
  simp only [bind_assoc]
  refine bind_congr fun p => ?_
  cases o.file with
  | some path => rfl
  | none => cases o.url <;> rfl

theorem looks_prepare (colored : Bool) (c : CommandLine.Connection) :
    Looks (prepare World.system (tell World.system colored) c) fun e r =>
      r.1.Of e.tree c.config ∧ Client.Of c r.1 r.2 := by
  refine ((looks_loadSettings colored c.config).bind fun s =>
    (looks_makeClient colored c s).bind fun client => looks_pure (s, client)).congr
    fun e r => ⟨?_, ?_⟩
  · rintro ⟨s, hs, client, hclient, rfl⟩
    exact ⟨hs, hclient⟩
  · rintro ⟨hs, hclient⟩
    exact ⟨_, hs, _, hclient, rfl⟩

theorem looks_chooseTarget (o : ScanOptions) :
    Looks (chooseTarget o) fun _ target => o.target? = some target := by
  unfold chooseTarget
  cases o.target? with
  | some target => exact (looks_pure target).congr fun _ _ => by simp [eq_comm]
  | none => exact (looks_throw .noTarget).congr fun _ _ => by simp

theorem meets_submitScan (colored : Bool) (o : ScanOptions) :
    Meets (submitScan World.system colored o) fun e id e' =>
      ∃ e₁, Submits o e id e₁ ∧ Keeps o.saveId id e₁ e' := by
  refine Meets.congr ((looks_prepare colored o.connection).look_bind fun p =>
    (looks_chooseTarget o).look_bind fun target => meets_submission colored p.2 _) fun e id e' => ⟨?_, ?_⟩
  · rintro ⟨_, ⟨hsettings, hclient⟩, target, htarget, hnonempty, e₁, hsubmits, hkeeps⟩
    exact ⟨e₁, .mk hsettings hclient htarget rfl hnonempty hsubmits, hkeeps⟩
  · rintro ⟨e₁, ⟨hsettings, hclient, htarget, rfl, hnonempty, hsubmits⟩, hkeeps⟩
    exact ⟨(_, _), ⟨hsettings, hclient⟩, _, htarget, hnonempty, e₁, hsubmits, hkeeps⟩

end Run

end ScanGate
