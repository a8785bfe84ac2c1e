import ScanGate.Proofs.Run.Untouched

/-! Files are written as a whole or not at all, and never through a link. A file that is written has
the bytes it was given, and every other entry of the tree is as it was; where a run cannot write,
or fails before it comes to it, the whole tree is. -/
namespace ScanGate

open CommandLine (PdfOptions ReportOptions)

/-! ### Trees -/

/-- The bytes are written at the path. No link was there; in the place of a file or of nothing there
is a file with just these bytes, and every other entry is as it was. -/
structure Tree.Written (t t' : Tree) (path : String) (data : ByteArray) : Prop where
  plain : ∀ target, t.inspect path ≠ .ok (.link target)
  read : t'.read path = .ok (.bytes data)
  place : ∃ way, t'.locate .entry path = .ok (.found way (.file (.bytes data))) ∧
    t'.entry? way = some (.file (.bytes data)) ∧
    (t.entry? way = none ∨ ∃ old, t.entry? way = some (.file old)) ∧
    ∀ other, other ≠ way → t'.entry? other = t.entry? other
  current : t'.current = t.current

theorem Tree.written_of_write {t t' : Tree} {path : String} {data : ByteArray}
    (h : t.write path data = .ok t') (hplain : ∀ target, t.inspect path ≠ .ok (.link target)) :
    t.Written t' path data := by
  have hread := read_of_write h
  obtain ⟨way, rfl, hroot, hold, hlocate⟩ := exists_place_of_write h hplain
  exact ⟨hplain, hread, ⟨way, hlocate, entry?_insert_self t hroot _, hold,
    fun other hother => entry?_insert_ne t hother _⟩, current_insert t way _⟩

/-- The same options with the report in this file. -/
def CommandLine.ReportOptions.toFile (o : ReportOptions) (path : String) : ReportOptions :=
  { o with output := some path }

namespace Run

open Gate (Gives Fails gives_pure gives_lift gives_lift_bind gives_or_fails)

/-! ### Writing a file -/

section

variable {σ : Type} {S : System (StateM σ)}

/-- Looking leaves everything as it is, and so does a write that fails. -/
structure AllOrNothing (S : System (StateM σ)) : Prop where
  inspect (path : String) (st : σ) : ((S.inspect path).run st).2 = st
  exists? (path : String) (st : σ) : ((S.exists? path).run st).2 = st
  write {path : String} {data : ByteArray} {st st' : σ} {err : OsError}
    (h : (S.write path data).run st = (.error err, st')) : st' = st

/-- What is checked of the path is so, or that is the failure; either way everything is as it was. -/
def Checks (path : String) (x : ExceptT Failure (StateM σ) Unit) (st : σ) : Prop :=
  Gives x st () st ∨ ∃ details, Fails x st (.unwritable path details) st

variable {path : String} {data : ByteArray} {st : σ}

theorem checks_pure : Checks path (pure ()) st := .inl (gives_pure.mpr ⟨rfl, rfl⟩)

theorem checks_throw (details : String) : Checks path (throw (.unwritable path details)) st :=
  .inr ⟨details, rfl⟩

/-- What only looks may come first. -/
theorem Checks.look_bind {α : Type} {x : StateM σ α} {f : α → ExceptT Failure (StateM σ) Unit}
    (hx : (x.run st).2 = st) (hf : Checks path (f (x.run st).1) st) :
    Checks path (liftM x >>= f) st := by
  have hgives : Gives (liftM x) st (x.run st).1 st := gives_lift.mpr (Prod.ext rfl hx)
  unfold Checks Gives Fails at hf ⊢
  rw [hgives.run_bind]
  exact hf

theorem checks_checkParent (hS : AllOrNothing S) : Checks path (Files.checkParent S path) st := by
  unfold Files.checkParent
  cases Path.parent? path with
  | none => exact checks_pure
  | some parent =>
    refine Checks.look_bind (hS.exists? parent st) ?_
    split
    · exact checks_throw _
    · exact checks_pure

theorem checks_checkPlain (hS : AllOrNothing S) : Checks path (Files.checkPlain S path) st := by
  refine Checks.look_bind (hS.inspect path st) ?_
  cases ((S.inspect path).run st).1 with
  | error _ => exact checks_pure
  | ok kind =>
    cases kind with
    | link => exact checks_throw _
    | file _ | directory | other => exact checks_pure

/-- A file is written as the system writes files, or the path cannot be written and everything is
as it was. -/
def Writes (S : System (StateM σ)) (path : String) (data : ByteArray)
    (x : ExceptT Failure (StateM σ) Unit) (st : σ) : Prop :=
  (∃ st', (S.write path data).run st = (.ok (), st') ∧ Gives x st () st') ∨
    ∃ details, Fails x st (.unwritable path details) st

theorem Checks.bind {x : ExceptT Failure (StateM σ) Unit}
    {f : Unit → ExceptT Failure (StateM σ) Unit} (hx : Checks path x st)
    (hf : Writes S path data (f ()) st) : Writes S path data (x >>= f) st := by
  obtain hgives | ⟨details, hfails⟩ := hx
  · unfold Writes Gives Fails at hf ⊢
    rw [hgives.run_bind]
    exact hf
  · exact .inr ⟨details, hfails.run_bind⟩

theorem writes_put (hS : AllOrNothing S) : Writes S path data (Files.put S path data) st := by
  rcases hwrite : (S.write path data).run st with ⟨err | _, st'⟩
  · obtain rfl := hS.write hwrite
    have hgives : Gives (liftM (S.write path data)) st' (.error err) st' := gives_lift.mpr hwrite
    exact .inr ⟨err.text, hgives.run_bind⟩
  · exact .inl ⟨st', hwrite, gives_lift_bind.mpr ⟨_, st', hwrite, gives_pure.mpr ⟨rfl, rfl⟩⟩⟩

theorem writes_writeBytes (hS : AllOrNothing S) (path : String) (data : ByteArray) (st : σ) :
    Writes S path data (Files.writeBytes S path data) st := by
  rw [Files.writeBytes_eq]
  exact (checks_checkParent hS).bind ((checks_checkPlain hS).bind (writes_put hS))

end

theorem allOrNothing_world : AllOrNothing World.system where
  inspect _ _ := rfl
  exists? _ _ := rfl
  write {path data w w' err} h := by
    have hrun : (World.write path data).run w = (.error err, w') := h
    cases hwrite : w.tree.write path data with
    | ok t' =>
      rw [write_ok hwrite] at hrun
      cases hrun
    | error _ =>
      rw [write_error hwrite] at hrun
      cases hrun
      rfl

/-- Where a file can be written, it is, and the world is otherwise as it was; where not, that is the
failure and the world is as it was. -/
theorem writeBytes_cases (path : String) (data : ByteArray) (w : World) :
    (w.tree.Writable path ∧ ∃ t', w.tree.Written t' path data ∧
      (Files.writeBytes World.system path data).run.run w = (.ok (), { w with tree := t' })) ∨
    (¬ w.tree.Writable path ∧ ∃ details,
      (Files.writeBytes World.system path data).run.run w =
        (.error (.unwritable path details), w)) := by
  have hmeets : Meets (Files.writeBytes World.system path data) _ := meets_writeBytes
  obtain ⟨w', hwrite, hgives⟩ | ⟨details, hfails⟩ :=
    writes_writeBytes allOrNothing_world path data w
  · obtain ⟨hwritable, t', ht, -⟩ := (hmeets.gives w () _).mp ⟨w', hgives, rfl⟩
    obtain rfl : { w with tree := t' } = w' := congrArg Prod.snd ((write_ok ht).symm.trans hwrite)
    exact .inl ⟨hwritable, t', Tree.written_of_write ht hwritable.plain, hgives⟩
  · refine .inr ⟨fun hwritable => ?_, details, hfails⟩
    obtain ⟨t', ht⟩ := hwritable.place data
    obtain ⟨w', hrun, -⟩ := hmeets.run_ok (w := w) (a := ()) ⟨hwritable, t', ht, rfl⟩
    cases hfails.symm.trans hrun

/-! ### Making and saving -/

section

variable {α : Type} (path : α → String) (data : α → ByteArray) (note : α → String)
  (code : α → ExitCode)

/-- What was made is written and told, and gives the exit code. -/
def save (a : α) : ExceptT Failure (StateM World) ExitCode := do
  Files.writeBytes World.system (path a) (data a)
  World.system.error (note a)
  return code a

variable {path data note code}

theorem run_save_ok {a : α} {w : World} {t' : Tree}
    (h : (Files.writeBytes World.system (path a) (data a)).run.run w =
      (.ok (), { w with tree := t' })) :
    (save path data note code a).run.run w =
      (.ok (code a), { w with tree := t', error := w.error ++ note a }) := by
  have hwrite : Gives (Files.writeBytes World.system (path a) (data a)) w ()
    { w with tree := t' } := h
  rw [save, hwrite.run_bind]
  rfl

/-- Where a thing can be made and there is a place for it, it is written there as a whole, and the
run has its exit code. Where not, the run fails, and the tree is as it was. -/
theorem saved_or_untouched (path : α → String) (data : α → ByteArray) (note : α → String)
    (code : α → ExitCode) {x : ExceptT Failure (StateM World) α}
    {P : Surroundings → α → Surroundings → Prop} (hx : Meets x P)
    (htree : ∀ w, (x.run.run w).2.tree = w.tree) (w : World) :
    (∃ a e w', P w.surroundings a e ∧ w.tree.Writable (path a) ∧
      (x >>= save path data note code).run.run w = (.ok (code a), w') ∧
      w.tree.Written w'.tree (path a) (data a)) ∨
    ((∀ a e, P w.surroundings a e → ¬ w.tree.Writable (path a)) ∧
      ∃ failure w', (x >>= save path data note code).run.run w = (.error failure, w') ∧
        w'.tree = w.tree) := by
  have hkept := htree w
  obtain ⟨a, w₁, hgives⟩ | ⟨failure, w₁, hfails⟩ := gives_or_fails x w
  · have hrun : x.run.run w = (.ok a, w₁) := hgives
    have hmade := (hx.gives w a _).mp ⟨w₁, hgives, rfl⟩
    rw [hrun] at hkept
    rw [hgives.run_bind, ← hkept]
    obtain ⟨hwritable, t', hwritten, hwrite⟩ | ⟨hwritable, details, hwrite⟩ :=
      writeBytes_cases (path a) (data a) w₁
    · exact .inl ⟨a, _, _, hmade, hwritable, run_save_ok hwrite, hwritten⟩
    · refine .inr ⟨fun b e hb => ?_, .unwritable (path a) details, w₁, ?_, rfl⟩
      · obtain ⟨w₂, hrun', -⟩ := hx.run_ok hb
        cases hrun.symm.trans hrun'
        exact hwritable
      · have hfails : Fails (Files.writeBytes World.system (path a) (data a)) w₁
          (.unwritable (path a) details) w₁ := hwrite
        exact hfails.run_bind
  · have hrun : x.run.run w = (.error failure, w₁) := hfails
    rw [hrun] at hkept
    refine .inr ⟨fun a e ha => ?_, failure, w₁, hfails.run_bind, hkept⟩
    obtain ⟨w₂, hrun', -⟩ := hx.run_ok ha
    cases hrun.symm.trans hrun'

end

/-! ### The PDF -/

/-- Everything that is needed for a PDF: settings, a client, a product, and the body of an answer
with a status of 200 to 299 that is complete and not empty. -/
inductive Receives (o : PdfOptions) (e : Surroundings) :
    ProductId × ByteArray → Surroundings → Prop
  | mk {s : Settings} {client : Client} {product : ProductId} {body : Body}
      {e' : Surroundings} (hsettings : s.Of e.tree o.connection.config)
      (hclient : Client.Of o.connection s client) (hproduct : product.Of e.tree o.product)
      (hanswer : client.Exchanges "GET" (client.pdfUrl product) [("accept", "*/*")] (.zeros 0) e
        body e') (hsome : body.bytes.size ≠ 0) : Receives o e (product, body.bytes) e'

theorem meets_download (colored : Bool) (c : Client) (id : ProductId) :
    Meets (Download.run (c.service World.system) (tell World.system colored) id)
      fun e content e' => ∃ body, c.Exchanges "GET" (c.pdfUrl id) [("accept", "*/*")] (.zeros 0) e
        body e' ∧ body.bytes.size ≠ 0 ∧ content = body.bytes := by
  have hpdf : Meets ((c.service World.system).pdf id) fun e content e' =>
      ∃ body, c.Exchanges "GET" (c.pdfUrl id) [("accept", "*/*")] (.zeros 0) e body e' ∧
        content = body.bytes := by
    rw [Client.service]
    exact (meets_exchange c _ _ _ _ _).map Body.bytes
  unfold Download.run
  refine Meets.congr ((looks_tell colored _).look_bind fun _ => hpdf.bind
    (R := fun content e found e' => (content.size ≠ 0 ∧ found = content) ∧ e' = e)
    fun content => ?_) fun e content e' => ⟨?_, ?_⟩
  · by_cases hempty : content.size = 0
    · simp only [if_pos hempty]
      exact (looks_throw _).congr fun _ _ => by simp [hempty]
    · simp only [if_neg hempty]
      exact ((looks_tell colored _).bind fun _ => looks_pure content).congr fun _ _ => by
        simp [hempty]
  · rintro ⟨_, -, _, _, ⟨body, hanswer, rfl⟩, ⟨hsome, rfl⟩, rfl⟩
    exact ⟨body, hanswer, hsome, rfl⟩
  · rintro ⟨body, hanswer, hsome, rfl⟩
    exact ⟨(), trivial, _, e', ⟨body, hanswer, rfl⟩, ⟨hsome, rfl⟩, rfl⟩

theorem meets_receive (colored : Bool) (o : PdfOptions) :
    Meets (receive World.system colored o) (Receives o) := by
  have hprepare := (looks_loadSettings colored o.connection.config).bind fun s =>
    (looks_makeClient colored o.connection s).bind fun client => looks_pure (s, client)
  refine Meets.congr (hprepare.look_bind fun p => (looks_chooseProduct o.product).look_bind
    fun product => (meets_download colored p.2 product).bind
      fun content => looks_pure (product, content)) fun e r e' => ⟨?_, ?_⟩
  · rintro ⟨_, ⟨s, hsettings, client, hclient, rfl⟩, product, hproduct, _, _,
      ⟨body, hanswer, hsome, rfl⟩, rfl, rfl⟩
    exact .mk hsettings hclient hproduct hanswer hsome
  · rintro ⟨hsettings, hclient, hproduct, hanswer, hsome⟩
    exact ⟨_, ⟨_, hsettings, _, hclient, rfl⟩, _, hproduct, _, _, ⟨_, hanswer, hsome, rfl⟩, rfl,
      rfl⟩

/-! ### Commands -/

/-- Where the PDF goes. -/
def pdfPath (o : PdfOptions) (product : ProductId) : String := o.output.getD product.pdfName

/-- What is told when the PDF is there. -/
def pdfSaved (colored : Bool) (path : String) : String :=
  (Message.completion ("✅ PDF report saved: " ++ path)).render colored

theorem reportPdf_eq (colored : Bool) (o : PdfOptions) :
    reportPdf World.system colored o = receive World.system colored o >>=
      save (fun r => pdfPath o r.1) (·.2) (fun r => pdfSaved colored (pdfPath o r.1))
        (fun _ => .success) := by
  unfold reportPdf receive
  simp only [bind_assoc, pure_bind]
  rfl

theorem report_eq_save (colored : Bool) (o : ReportOptions) (path : String) :
    report World.system colored (o.toFile path) =
      respond World.system colored (o.toFile path) >>=
        save (fun _ => path) (fun r => (rendering (o.toFile path) colored r.1 r.2).toUTF8)
          (fun _ => "✅ Output complete: " ++ path ++ "\n") (fun r => r.2.outcome.exitCode) := by
  rw [report_eq]
  refine bind_congr fun r => ?_
  unfold deliver Files.present save
  simp only [CommandLine.ReportOptions.toFile, bind_assoc]

section

variable {c : CommandLine.Command} {code : ExitCode} {failure : Failure} {w w' : World}

theorem run_of_ok
    (h : (command World.system (colored w.surroundings) c).run.run w = (.ok code, w')) :
    (run World.system c).run w = (code, w') := by
  rw [run_command, h]

theorem run_of_error
    (h : (command World.system (colored w.surroundings) c).run.run w = (.error failure, w')) :
    (run World.system c).run w =
      (.applicationError, { w' with error := w'.error ++ explain failure }) := by
  rw [run_command, h]

end

/-- The run has this exit code, and has written these bytes at the path. -/
def Saves (c : CommandLine.Command) (w : World) (code : ExitCode) (path : String)
    (data : ByteArray) : Prop :=
  ∃ w', (run World.system c).run w = (code, w') ∧ w.tree.Written w'.tree path data

/-- The run has the exit code of a failure, and the tree is as it was. -/
def Spares (c : CommandLine.Command) (w : World) : Prop :=
  ∃ w', (run World.system c).run w = (.applicationError, w') ∧ w'.tree = w.tree

/-- A run for a report to a file has written its rendering, if it comes to its end. -/
theorem report_saves_or_spares (o : ReportOptions) (path : String) (w : World) :
    (∃ s response, Completes (o.toFile path) w.surroundings s response ∧
      Saves (.report (o.toFile path)) w response.outcome.exitCode path
        (rendering (o.toFile path) (colored w.surroundings) s response).toUTF8) ∨
    ((¬ ∃ s response, Completes (o.toFile path) w.surroundings s response) ∧
      Spares (.report (o.toFile path)) w) := by
  have hpath {path' : String} (h : (o.toFile path).output = some path') : path' = path :=
    (Option.some.inj h).symm
  have hreport := report_eq_save (colored w.surroundings) o path
  obtain ⟨r, e, w', hresponds, hwritable, hrun, hwritten⟩ | ⟨hnone, failure, w', hrun, htree⟩ :=
    saved_or_untouched (fun _ => path)
      (fun r => (rendering (o.toFile path) (colored w.surroundings) r.1 r.2).toUTF8)
      (fun _ => "✅ Output complete: " ++ path ++ "\n") (fun r => r.2.outcome.exitCode)
      (meets_respond (colored w.surroundings) (o.toFile path))
      (tree_respond (colored w.surroundings) (o.toFile path)) w
  · rw [← hreport] at hrun
    exact .inl ⟨r.1, r.2, ⟨⟨e, hresponds⟩, fun _ h => hpath h ▸ hwritable⟩,
      w', run_of_ok hrun, hwritten⟩
  · rw [← hreport] at hrun
    refine .inr ⟨?_, _, run_of_error hrun, htree⟩
    rintro ⟨s, response, ⟨e, hresponds⟩, hwritable⟩
    exact hnone (s, response) e hresponds (hwritable path rfl)

/-- A run for a PDF has written it, if it is received and there is a place for it. -/
theorem reportPdf_saves_or_spares (o : PdfOptions) (w : World) :
    (∃ product body e, Receives o w.surroundings (product, body) e ∧
      w.tree.Writable (pdfPath o product) ∧
      Saves (.reportPdf o) w .success (pdfPath o product) body) ∨
    ((∀ product body e, Receives o w.surroundings (product, body) e →
        ¬ w.tree.Writable (pdfPath o product)) ∧
      Spares (.reportPdf o) w) := by
  have hreport := reportPdf_eq (colored w.surroundings) o
  obtain ⟨r, e, w', hreceives, hwritable, hrun, hwritten⟩ | ⟨hnone, failure, w', hrun, htree⟩ :=
    saved_or_untouched (fun r => pdfPath o r.1) (·.2)
      (fun r => pdfSaved (colored w.surroundings) (pdfPath o r.1)) (fun _ => .success)
      (meets_receive (colored w.surroundings) o) (tree_receive (colored w.surroundings) o) w
  · rw [← hreport] at hrun
    exact .inl ⟨r.1, r.2, e, hreceives, hwritable, w', run_of_ok hrun, hwritten⟩
  · rw [← hreport] at hrun
    exact .inr ⟨fun product body => hnone (product, body), _, run_of_error hrun, htree⟩

/-- A file is written as a whole or not at all, and never through a link. Writing succeeds exactly
where there is a place for a file and no link; it changes nothing but the file, and where it fails
nothing at all. So a run for a report to a file that comes to its end has written the rendering, and
any other has left the tree as it was; and a run for a PDF succeeds exactly if there is a place for
it and the service answers with a status of 200 to 299 and a body that is complete and not empty,
which the file then has, and in any other case leaves the tree as it was. -/
theorem delivered_whole (w : World) :
    (∀ path data,
      (w.tree.Writable path ∧ ∃ t', w.tree.Written t' path data ∧
        (Files.writeBytes World.system path data).run.run w = (.ok (), { w with tree := t' })) ∨
      (¬ w.tree.Writable path ∧ ∃ details,
        (Files.writeBytes World.system path data).run.run w =
          (.error (.unwritable path details), w))) ∧
    (∀ (o : ReportOptions) path,
      (∃ s response, Completes (o.toFile path) w.surroundings s response ∧
        Saves (.report (o.toFile path)) w response.outcome.exitCode path
          (rendering (o.toFile path) (colored w.surroundings) s response).toUTF8) ∨
      ((¬ ∃ s response, Completes (o.toFile path) w.surroundings s response) ∧
        Spares (.report (o.toFile path)) w)) ∧
    (∀ o : PdfOptions,
      (∃ product body e, Receives o w.surroundings (product, body) e ∧
        w.tree.Writable (pdfPath o product) ∧
        Saves (.reportPdf o) w .success (pdfPath o product) body) ∨
      ((∀ product body e, Receives o w.surroundings (product, body) e →
          ¬ w.tree.Writable (pdfPath o product)) ∧
        Spares (.reportPdf o) w)) :=
  ⟨fun path data => writeBytes_cases path data w, fun o path => report_saves_or_spares o path w,
    fun o => reportPdf_saves_or_spares o w⟩

/-- The same answer, with nothing in the way of the file and with a link in its place. -/
example : [[], [(["bdba_scan_1.pdf"], .link "other")]].map (fun entries =>
    ((run World.system (.reportPdf {
      connection := { token := some "t", host := some "h" }, product := { id := some ⟨"1"⟩ } })).run
      { tree := { entries }, replies := [.answered 200 { bytes := "%PDF".toUTF8 } true] }).1) =
    [.success, .applicationError] := by decide +kernel

end Run

end ScanGate
