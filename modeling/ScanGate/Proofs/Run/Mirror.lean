import ScanGate.Proofs.Files
import ScanGate.Proofs.Gate.Response
import ScanGate.Run

/-! Runs in step. Two systems mirror each other in a relation between their states if all that is
looked up, read, written or told comes to the same and stays related; nothing is said of what they
send. Then everything a command does on the one and on the other, but for sending, comes to the
same end. What only reads and tells is in step also where writing is not. -/
namespace ScanGate.Run

open Gate (run_reword)

variable {σ τ α β : Type}

/-- From related states the computations come to the same end, and leave related states. -/
def InStep (I : σ → τ → Prop) (x : ExceptT Failure (StateM σ) α)
    (y : ExceptT Failure (StateM τ) α) : Prop :=
  ∀ s t, I s t → (x.run.run s).1 = (y.run.run t).1 ∧ I (x.run.run s).2 (y.run.run t).2

variable {I : σ → τ → Prop} {x : ExceptT Failure (StateM σ) α}
  {y : ExceptT Failure (StateM τ) α} {f : α → ExceptT Failure (StateM σ) β}
  {g : α → ExceptT Failure (StateM τ) β}

/-! ### One after the other -/

theorem inStep_except (r : Except Failure α) :
    InStep I (liftM r) (liftM r) := fun _ _ h => ⟨rfl, h⟩

theorem inStep_pure (a : α) : InStep I (pure a) (pure a) := inStep_except (.ok a)

theorem inStep_throw (failure : Failure) : InStep (α := α) I (throw failure) (throw failure) :=
  inStep_except (.error failure)

theorem InStep.bind (hx : InStep I x y) (hf : ∀ a, InStep I (f a) (g a)) :
    InStep I (x >>= f) (y >>= g) := by
  intro s t h
  obtain ⟨hend, hstates⟩ := hx s t h
  simp only [ExceptT.run_bind, StateT.run_bind]
  rcases hxs : x.run.run s with ⟨r, s'⟩
  rcases hyt : y.run.run t with ⟨r', t'⟩
  rw [hxs, hyt] at hend hstates
  obtain rfl : r = r' := hend
  cases r with
  | ok a => exact hf a s' t' hstates
  | error failure => exact ⟨rfl, hstates⟩

theorem InStep.map (hx : InStep I x y) (h : α → β) : InStep I (h <$> x) (h <$> y) := by
  rw [map_eq_pure_bind, map_eq_pure_bind]
  exact hx.bind fun a => inStep_pure (h a)

theorem InStep.reword (hx : InStep I x y) (other : Failure → Failure) :
    InStep I (tryCatch x fun failure => throw (other failure))
      (tryCatch y fun failure => throw (other failure)) := by
  intro s t h
  obtain ⟨hend, hstates⟩ := hx s t h
  rw [run_reword, run_reword]
  rcases hxs : x.run.run s with ⟨r, s'⟩
  rcases hyt : y.run.run t with ⟨r', t'⟩
  rw [hxs, hyt] at hend hstates
  obtain rfl : r = r' := hend
  cases r <;> exact ⟨rfl, hstates⟩

/-- What is checked first fails on both sides or on neither. -/
theorem InStep.provided {right : Bool} {failure : Failure} (h : InStep I x y) : InStep I
      (if !right then do
        throw failure
        x
      else x)
      (if !right then do
        throw failure
        y
      else y) := by
  cases right with
  | true => exact h
  | false => exact inStep_throw failure

/-! ### Systems -/

/-- Everything the systems look up, read or tell comes to the same. -/
structure Reflects (I : σ → τ → Prop) (S : System (StateM σ)) (T : System (StateM τ)) : Prop where
  lookup (name : String) : InStep I (liftM (S.lookup? name)) (liftM (T.lookup? name))
  inspect (path : String) : InStep I (liftM (S.inspect path)) (liftM (T.inspect path))
  exists? (path : String) : InStep I (liftM (S.exists? path)) (liftM (T.exists? path))
  read (path : String) : InStep I (liftM (S.read path)) (liftM (T.read path))
  output (text : String) : InStep I (liftM (S.output text)) (liftM (T.output text))
  error (text : String) : InStep I (liftM (S.error text)) (liftM (T.error text))

/-- Everything the systems do comes to the same, but for what they send. -/
structure Mirrors (I : σ → τ → Prop) (S : System (StateM σ)) (T : System (StateM τ)) : Prop
    extends Reflects I S T where
  write (path : String) (data : ByteArray) :
    InStep I (liftM (S.write path data)) (liftM (T.write path data))

variable {S : System (StateM σ)} {T : System (StateM τ)} {path what : String} {colored : Bool}

section

variable (h : Reflects I S T)

include h

theorem Reflects.tell (message : Message) :
    InStep I (liftM (Run.tell S colored message)) (liftM (Run.tell T colored message)) :=
  h.error _

theorem inStep_tellAll (messages : List Message) :
    InStep I (Gate.tellAll (tell S colored) messages) (Gate.tellAll (tell T colored) messages) := by
  induction messages with
  | nil => exact inStep_pure ()
  | cons message rest ih => exact (h.tell message).bind fun _ => ih

/-! ### Reading -/

theorem inStep_checkRegular :
    InStep I (Files.checkRegular S path what) (Files.checkRegular T path what) := by
  refine (h.inspect path).bind fun r => ?_
  match r with
  | .ok (.file size) => exact inStep_pure size
  | .error _ | .ok .link | .ok .directory | .ok .other => exact inStep_throw _

theorem inStep_readText : InStep I (Files.readText S path what) (Files.readText T path what) := by
  refine (inStep_checkRegular h).bind fun size => (inStep_except _).bind fun _ =>
    (h.read path).bind fun r => ?_
  cases r with
  | error _ => exact inStep_throw _
  | ok content =>
    simp only
    cases Text.ofUtf8? content.data with
    | none => exact inStep_throw _
    | some text => exact inStep_pure text

theorem inStep_load : InStep I (Settings.load S path) (Settings.load T path) := by
  refine ((inStep_readText h).reword _).bind fun text => ?_
  cases Settings.ofText text with
  | ok s => exact inStep_pure s
  | error failure => cases failure <;> exact inStep_throw _

theorem inStep_loadSettings (config : Option String) :
    InStep I (loadSettings S (tell S colored) config) (loadSettings T (tell T colored) config) := by
  have htell (messages : List Message) :
      InStep I (Gate.tellAll (tell S colored) messages) (Gate.tellAll (tell T colored) messages) :=
    inStep_tellAll h messages
  have hrest (s : Settings) :=
    (htell (s.unknown.map unknownWarning)).bind fun _ => inStep_pure s
  unfold loadSettings
  simp only [Gate.forIn_tell]
  cases config with
  | some path => exact (inStep_load h).bind hrest
  | none =>
    have hdiscover : InStep I (Settings.discover S ".") (Settings.discover T ".") :=
      (h.exists? _).bind fun there => by
        cases there with
        | false => exact inStep_pure none
        | true => exact (inStep_load h).bind fun s => inStep_pure (some s)
    exact hdiscover.bind fun found => (inStep_pure (found.getD {})).bind hrest

theorem inStep_makeClient (c : CommandLine.Connection) (s : Settings) :
    InStep I (makeClient (tell S colored) c s) (makeClient (tell T colored) c s) := by
  have hrest (host : String) (insecure : Bool) :=
    (inStep_except (I := I) (Run.credentials c.token c.username c.password)).bind fun credentials =>
      inStep_pure (Client.ofHost host credentials insecure)
  unfold makeClient
  cases c.host <|> s.host with
  | none => exact inStep_throw noHost
  | some host =>
    simp only
    cases c.insecure || s.insecure.getD false with
    | true => exact (h.tell insecureWarning).bind fun _ => hrest host true
    | false => exact hrest host false

theorem inStep_prepare (c : CommandLine.Connection) :
    InStep I (prepare S (tell S colored) c) (prepare T (tell T colored) c) :=
  (inStep_loadSettings h c.config).bind fun s => (inStep_makeClient h c s).bind fun client =>
    inStep_pure (s, client)

theorem inStep_loadId : InStep I (IdFile.load S path) (IdFile.load T path) := by
  refine ((inStep_readText h).reword _).bind fun text => ?_
  cases ProductId.ofString text with
  | ok id => exact inStep_pure id
  | error _ => exact inStep_throw _

theorem inStep_chooseProduct (product : CommandLine.Product) :
    InStep I (chooseProduct S product) (chooseProduct T product) := by
  unfold chooseProduct
  cases product.id with
  | some id => exact inStep_pure id
  | none => exact inStep_loadId h

/-! ### Writing -/

theorem inStep_checkParent : InStep I (Files.checkParent S path) (Files.checkParent T path) := by
  unfold Files.checkParent
  cases Path.parent? path with
  | none => exact inStep_pure ()
  | some parent =>
    refine (h.exists? parent).bind fun there => ?_
    split
    · exact inStep_throw _
    · exact inStep_pure ()

theorem inStep_checkPlain : InStep I (Files.checkPlain S path) (Files.checkPlain T path) := by
  refine (h.inspect path).bind fun r => ?_
  match r with
  | .ok .link => exact inStep_throw _
  | .error _ | .ok (.file _) | .ok .directory | .ok .other => exact inStep_pure ()

end

section

variable (h : Mirrors I S T)

include h

theorem inStep_write_bind {data : ByteArray}
    {f : Except OsError Unit → ExceptT Failure (StateM σ) α}
    {g : Except OsError Unit → ExceptT Failure (StateM τ) α}
    (hok : InStep I (f (.ok ())) (g (.ok ())))
    (herror : ∀ err, InStep I (f (.error err)) (g (.error err))) :
    InStep I (liftM (S.write path data) >>= f) (liftM (T.write path data) >>= g) := by
  refine (h.write path data).bind fun r => ?_
  cases r with
  | ok => exact hok
  | error err => exact herror err

theorem inStep_writeBytes (data : ByteArray) :
    InStep I (Files.writeBytes S path data) (Files.writeBytes T path data) := by
  rw [Files.writeBytes_eq, Files.writeBytes_eq]
  exact (inStep_checkParent h.toReflects).bind fun _ =>
    (inStep_checkPlain h.toReflects).bind fun _ =>
      inStep_write_bind h (inStep_pure ()) fun _ => inStep_throw _

theorem inStep_present (content : String) :
    InStep I (Files.present S path content) (Files.present T path content) :=
  (inStep_writeBytes h _).bind fun _ => h.error _

theorem inStep_save (id : ProductId) : InStep I (IdFile.save S path id) (IdFile.save T path id) := by
  exact inStep_write_bind h (inStep_pure ()) fun _ => inStep_throw _

end

end ScanGate.Run
