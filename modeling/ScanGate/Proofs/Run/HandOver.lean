import ScanGate.Proofs.Files
import ScanGate.Proofs.Run.Ending
import ScanGate.Proofs.Run.Submission
import ScanGate.Proofs.Text.Utf8

/-! The id of a product on its way from the submission to the report. It is written through
links, and it is not read where a link is: what has been saved is loaded again unless a link
was at the path, and then nothing is loaded. -/
namespace ScanGate

/-- The service names its products by ids that can be used. -/
theorem ProductId.isValid_of_parse {body : String} {id : ProductId} (h : parse body = .ok id) :
    id.IsValid := by
  unfold parse at h
  split at h
  · cases h
  · exact (ofString_eq_ok_iff.mp h).2
  · exact (ofString_eq_ok_iff.mp h).2
  · cases h

/-- What is loaded from a path when these are the files. -/
def IdFile.Loads (t : Tree) (path : String) (r : Except Failure ProductId) : Prop :=
  ∀ w : World, w.tree = t → ((IdFile.load World.system path).run.run w).1 = r

namespace Run

open CommandLine (ReportOptions ScanOptions)

variable {α β : Type} {t t' : Tree} {path target : String} {id : ProductId}

/-! ### Loading -/

theorem run_lift_bind {x : StateM World α} {f : α → ExceptT Failure (StateM World) β}
    {w w' : World} {a : α} (hx : x.run w = (a, w')) :
    (liftM x >>= f : ExceptT Failure (StateM World) β).run.run w = (f a).run.run w' := by
  change ((f (x.run w).1).run.run (x.run w).2) = _
  rw [hx]

theorem loads_ok_iff : IdFile.Loads t path (.ok id) ↔ id.In t path := by
  constructor
  · intro h
    obtain ⟨failure, w', hrun, -⟩ | ⟨id', w', hrun, hin, -⟩ :=
      looks_loadId.run_cases { tree := t : World }
    · cases (congrArg Prod.fst hrun).symm.trans (h _ rfl)
    · cases (congrArg Prod.fst hrun).symm.trans (h _ rfl)
      exact hin.1
  · rintro h w rfl
    obtain ⟨w', hrun, -⟩ := looks_loadId.run_ok (w := w) ⟨h, rfl⟩
    exact congrArg Prod.fst hrun

/-- Nothing is loaded where a link is. -/
theorem loads_of_link (h : t.inspect path = .ok (.link target)) :
    IdFile.Loads t path (.error (.idFile path (Failure.symbolicLink path).message)) := by
  rintro w rfl
  have hinspect : (World.system.inspect path).run w = (.ok .link, w) := by
    change ((w.tree.inspect path).map Entry.kind, w) = _
    rw [h]
    rfl
  have hcheck (what : String) : (Files.checkRegular World.system path what).run.run w =
      (.error (.symbolicLink path), w) := run_lift_bind hinspect
  have hread (what : String) : (Files.readText World.system path what).run.run w =
      (.error (.symbolicLink path), w) := run_bind_error (hcheck what)
  have hreword := Gate.run_reword (Files.readText World.system path "scan id file")
    (fun failure => .idFile path failure.message) w
  rw [hread] at hreword
  exact congrArg Prod.fst (run_bind_error hreword)

/-! ### Saving -/

/-- An id is short, so a file that holds one is read again. -/
theorem hasText_of_write (hid : id.IsValid) (hwrite : t.write path id.text.toUTF8 = .ok t')
    (hplain : ∀ target, t.inspect path ≠ .ok (.link target)) : t'.HasText path id.text where
  regular := by
    have hsize : id.text.utf8ByteSize ≤ ProductId.maxBytes := Nat.le_of_not_lt hid.short
    exact ⟨_, (Tree.inspect_of_write hwrite).1 hplain, Nat.le_trans hsize (by decide)⟩
  reads := ⟨_, Tree.read_of_write hwrite, Text.ofUtf8?_toUTF8 id.text⟩

theorem in_of_write (hid : id.IsValid) (hwrite : t.write path id.text.toUTF8 = .ok t')
    (hplain : ∀ target, t.inspect path ≠ .ok (.link target)) : id.In t' path :=
  ⟨id.text, hasText_of_write hid hwrite hplain, hid.ofString_text⟩

theorem not_in_of_link (hlink : t.inspect path = .ok (.link target)) : ¬ id.In t path := by
  rintro ⟨text, ⟨⟨content, hfile, -⟩, -⟩, -⟩
  cases hlink.symm.trans hfile

/-- Where an id has been written, it is all that can be loaded, and it can be loaded unless a
link was there. -/
theorem in_iff_of_write {id' : ProductId} (hid : id.IsValid)
    (hwrite : t.write path id.text.toUTF8 = .ok t') :
    id'.In t' path ↔ id' = id ∧ ∀ target, t.inspect path ≠ .ok (.link target) := by
  constructor
  · intro hin
    have hplain : ∀ target, t.inspect path ≠ .ok (.link target) := fun target hlink =>
      not_in_of_link ((Tree.inspect_of_write hwrite).2 target hlink) hin
    obtain ⟨text, ⟨-, content, hread, htext⟩, hparse⟩ := hin
    cases hread.symm.trans (Tree.read_of_write hwrite)
    cases htext.symm.trans (Text.ofUtf8?_toUTF8 id.text)
    exact ⟨Except.ok.inj (hparse.symm.trans hid.ofString_text), hplain⟩
  · rintro ⟨rfl, hplain⟩
    exact in_of_write hid hwrite hplain

/-- What was done to these files hands the id over at the path: the id, and no other, is loaded
there, unless a link was there; then nothing is. -/
structure HandsOver (t t' : Tree) (path : String) (id : ProductId) : Prop where
  loads_iff : ∀ id', IdFile.Loads t' path (.ok id') ↔
    id' = id ∧ ∀ target, t.inspect path ≠ .ok (.link target)
  link : ∀ target, t.inspect path = .ok (.link target) →
    IdFile.Loads t' path (.error (.idFile path (Failure.symbolicLink path).message))

theorem handsOver_of_write (hid : id.IsValid) (hwrite : t.write path id.text.toUTF8 = .ok t') :
    HandsOver t t' path id where
  loads_iff _ := loads_ok_iff.trans (in_iff_of_write hid hwrite)
  link target hlink := loads_of_link ((Tree.inspect_of_write hwrite).2 target hlink)

theorem handsOver_of_save {w w' : World} (hid : id.IsValid)
    (hsave : (IdFile.save World.system path id).run.run w = (.ok (), w')) :
    HandsOver w.tree w'.tree path id := by
  have hmeets : Meets (IdFile.save World.system path id) _ := meets_save id
  obtain ⟨failure, w₁, hrun, -⟩ | ⟨_, w₁, hrun, ⟨t', hwrite, htree⟩, -⟩ := hmeets.run_cases w
  · cases hrun.symm.trans hsave
  · cases hrun.symm.trans hsave
    have htree : w'.tree = t' := congrArg Surroundings.tree htree
    exact handsOver_of_write hid (htree ▸ hwrite)

/-! ### From the submission to the report -/

/-- With these files a report on the kept product is one on this product. -/
structure ReportsOn (t : Tree) (id : ProductId) : Prop where
  chooses : ∀ (product : CommandLine.Product) (w : World), product.id = none → w.tree = t →
    ((chooseProduct World.system product).run.run w).1 = .ok id
  responds : ∀ (o : ReportOptions) (e : Surroundings) (s : Settings) (response : Response)
    (e' : Surroundings), o.product.id = none → e.tree = t → Responds o e s response e' →
      response.product = id

/-- With these files a report on the kept product ends with a failure and without output. -/
def ReportsNothing (t : Tree) : Prop :=
  ∀ (o : ReportOptions) (w w' : World) (code : ExitCode), o.product.id = none → w.tree = t →
    (run World.system (.report o)).run w = (code, w') →
      code = .applicationError ∧ w'.output = w.output

theorem of_none_iff {product : CommandLine.Product} (h : product.id = none) :
    id.Of t product ↔ id.In t IdFile.path := by
  rw [ProductId.Of, h]

theorem HandsOver.reportsOn (h : HandsOver t t' IdFile.path id)
    (hplain : ∀ target, t.inspect IdFile.path ≠ .ok (.link target)) : ReportsOn t' id where
  chooses product w hnone htree := by
    have hloads : IdFile.Loads t' IdFile.path (.ok id) := (h.loads_iff id).mpr ⟨rfl, hplain⟩
    rw [chooseProduct, hnone]
    exact hloads w htree
  responds o e s response e' hnone htree hr := by
    cases hr with
    | mk _ _ hproduct _ _ =>
      rw [of_none_iff hnone, htree] at hproduct
      exact ((h.loads_iff _).mp (loads_ok_iff.mpr hproduct)).1

theorem HandsOver.reportsNothing (h : HandsOver t t' IdFile.path id)
    (hlink : t.inspect IdFile.path = .ok (.link target)) : ReportsNothing t' := by
  rintro o w w' code hnone rfl hrun
  refine exitCode_of_fails hrun ?_
  rintro ⟨s, response, ⟨e', hr⟩, -⟩
  cases hr with
  | mk _ _ hproduct _ _ =>
    have hin : ProductId.In w.tree IdFile.path _ := (of_none_iff hnone).mp hproduct
    exact ((h.loads_iff _).mp (loads_ok_iff.mpr hin)).2 target hlink

/-- The steps before the id is kept leave the files alone. -/
theorem Submits.tree_eq {o : ScanOptions} {e e' : Surroundings} (h : Submits o e id e') :
    e'.tree = e.tree := by
  obtain ⟨-, -, -, -, -, -, -, ⟨-, -, -, hanswer⟩, -⟩ := h
  exact tree_eq_of_answers hanswer

theorem Submits.isValid {o : ScanOptions} {e e' : Surroundings} (h : Submits o e id e') :
    id.IsValid := by
  obtain ⟨-, -, -, -, -, -, -, -, hid⟩ := h
  exact ProductId.isValid_of_parse hid

/-- A scan that succeeds has told the id of its product, and kept it if it had to. -/
theorem exists_submits_of_scan {o : ScanOptions} {w w' : World}
    (hrun : (run World.system (.scan o)).run w = (.success, w')) :
    ∃ id e₁ e₂, Submits o w.surroundings id e₁ ∧ Keeps o.saveId id e₁ e₂ ∧ w'.tree = e₂.tree ∧
      w'.output = w.output ++ ("Product ID: " ++ id.text ++ "\n") := by
  rw [run_scan, scan_eq] at hrun
  obtain ⟨failure, w₁, hsubmit, -⟩ | ⟨id, w₁, hsubmit, ⟨e₁, hsubmits, hkeeps⟩, hquiet⟩ :=
    (meets_submitScan (colored w.surroundings) o).run_cases w
  · rw [run_bind_error hsubmit] at hrun
    cases hrun
  · rw [ExceptT.run_bind, StateT.run_bind, hsubmit] at hrun
    cases hrun
    exact ⟨id, e₁, _, hsubmits, hkeeps, rfl, congrArg (· ++ _) hquiet⟩

/-- The id of a product is handed over from the submission to the report exactly when there was
no link at its path. An id that is saved there is loaded, and no other is; after a scan that
has kept the id of its product, a report on the kept product is one on the product of the
scan. Where a link was, saving succeeds, but loading fails, and with it every report. -/
theorem handsOver_saved (w : World) :
    (∀ (path : String) (id : ProductId) (w' : World), id.IsValid →
      (IdFile.save World.system path id).run.run w = (.ok (), w') →
        HandsOver w.tree w'.tree path id) ∧
    ∀ (o : ScanOptions) (w' : World), o.saveId = true →
      (run World.system (.scan o)).run w = (.success, w') →
        ∃ id e, Submits o w.surroundings id e ∧
          w'.output = w.output ++ ("Product ID: " ++ id.text ++ "\n") ∧
          HandsOver w.tree w'.tree IdFile.path id ∧
          ((∀ target, w.tree.inspect IdFile.path ≠ .ok (.link target)) →
            ReportsOn w'.tree id) ∧
          ∀ target, w.tree.inspect IdFile.path = .ok (.link target) →
            ReportsNothing w'.tree := by
  refine ⟨fun path id w' => handsOver_of_save, fun o w' hkeep hrun => ?_⟩
  obtain ⟨id, e₁, e₂, hsubmits, hkeeps, htree, houtput⟩ := exists_submits_of_scan hrun
  rw [Keeps, if_pos hkeep] at hkeeps
  obtain ⟨t', hwrite, rfl⟩ := hkeeps
  rw [hsubmits.tree_eq] at hwrite
  have hhands : HandsOver w.tree w'.tree IdFile.path id :=
    htree ▸ handsOver_of_write hsubmits.isValid hwrite
  exact ⟨id, e₁, hsubmits, houtput, hhands, hhands.reportsOn,
    fun _ hlink => hhands.reportsNothing hlink⟩

/-- A submission that keeps the id of its product. -/
def submissionOptions : ScanOptions where
  connection := { token := some "t", host := some "h" }
  url := some "https://h/app.bin"
  group := some "7"
  saveId := true

def submissionWorld : World where
  replies := [.answered 200
    { bytes := "\x7b\"results\": \x7b\"product_id\": \"4711\"\x7d\x7d".toUTF8 } true]

theorem isValid_sample : ProductId.IsValid ⟨"4711"⟩ :=
  ⟨by decide, by decide, List.all_eq_true.mp (by decide)⟩

theorem plain_submissionWorld (target : String) :
    submissionWorld.tree.inspect IdFile.path ≠ .ok (.link target) := by
  have hmissing : submissionWorld.tree.inspect IdFile.path = .error .notFound := rfl
  rw [hmissing]
  exact fun h => nomatch h

theorem scan_submissionWorld :
    ((run World.system (.scan submissionOptions)).run submissionWorld).1 = .success := by
  decide +kernel

theorem handsOver_saved_submission :
    HandsOver submissionWorld.tree
        ((IdFile.save World.system IdFile.path ⟨"4711"⟩).run.run submissionWorld).2.tree
        IdFile.path ⟨"4711"⟩ ∧
      ∃ id, ReportsOn ((run World.system (.scan submissionOptions)).run submissionWorld).2.tree
        id := by
  obtain ⟨hsaved, hscanned⟩ := handsOver_saved submissionWorld
  obtain ⟨id, e, -, -, -, hplain, -⟩ := hscanned submissionOptions _ rfl
    (Prod.ext scan_submissionWorld rfl)
  exact ⟨hsaved _ _ _ isValid_sample rfl, id, hplain plain_submissionWorld⟩

/-- Where the id is to be kept there is a link, and nothing yet where it leads. -/
def linkedWorld : World where
  tree := { entries := [(["scan.id"], .link "kept.id")] }

/-- Saving through the link succeeds, and loading refuses the link. -/
theorem lost_through_link :
    ((IdFile.save World.system IdFile.path ⟨"4711"⟩).run.run linkedWorld).1 = .ok () ∧
      ((IdFile.load World.system IdFile.path).run.run
        ((IdFile.save World.system IdFile.path ⟨"4711"⟩).run.run linkedWorld).2).1 =
          .error (.idFile "scan.id" (Failure.symbolicLink "scan.id").message) :=
  ⟨rfl, rfl⟩

end Run

end ScanGate
