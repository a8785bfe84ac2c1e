import ScanGate.Proofs.Files
import ScanGate.Proofs.Json.Records
import ScanGate.Proofs.Run.Steps

/-! The end of a run: the report is rendered and written. -/
namespace ScanGate

/-- A file can be written at the path: its directory is there, and there is a file or
nothing at its end, but no link. -/
structure Tree.Writable (t : Tree) (path : String) : Prop where
  parent : ∀ parent, Path.parent? path = some parent → parent = "" ∨ t.exists? parent = true
  plain : ∀ target, t.inspect path ≠ .ok (.link target)
  place : ∀ data, ∃ t', t.write path data = .ok t'

/-- Whether there is a place for a file has nothing to do with what is written there. -/
theorem Tree.exists_write {t t' : Tree} {path : String} {data : ByteArray}
    (h : t.write path data = .ok t') (data' : ByteArray) : ∃ t', t.write path data' = .ok t' := by
  unfold Tree.write at h ⊢
  split at h
  · exact ⟨_, rfl⟩
  · cases h
  · exact ⟨_, rfl⟩
  · cases h

namespace Run

variable {α : Type} {path : String} {data : ByteArray}

/-! ### Files -/

theorem looks_checkParent : Looks (Files.checkParent World.system path) fun e _ =>
    ∀ parent, Path.parent? path = some parent → parent = "" ∨ e.tree.exists? parent = true := by
  unfold Files.checkParent
  cases Path.parent? path with
  | none => exact (looks_pure ()).congr fun _ _ => by simp
  | some parent =>
    refine (Looks.of_run (S := fun there _ _ => parent = "" ∨ there = true)
      (g := fun e => e.tree.exists? parent) (fun _ => rfl) fun there => ?_).congr fun _ _ => by simp
    split
    · next hmissing => exact (looks_throw _).congr fun _ _ => by simpa using hmissing
    · next hthere =>
      have hthere : parent = "" ∨ there = true :=
        Decidable.or_iff_not_imp_left.mpr (by simpa using hthere)
      exact (looks_pure ()).congr fun _ _ => by simp [hthere]

theorem looks_checkPlain : Looks (Files.checkPlain World.system path) fun e _ =>
    ∀ target, e.tree.inspect path ≠ .ok (.link target) := by
  refine (Looks.of_run (S := fun kind _ _ => kind ≠ .ok .link)
    (g := fun e => (e.tree.inspect path).map Entry.kind) (fun _ => rfl) fun kind => ?_).congr
      fun e _ => ?_
  · match kind with
    | .ok .link => exact (looks_throw _).congr fun _ _ => by simp
    | .ok .directory | .ok .other | .ok (.file _) | .error _ =>
      exact (looks_pure ()).congr fun _ _ => by simp
  · generalize e.tree.inspect path = r
    match r with
    | .error _ | .ok .directory | .ok (.link _) | .ok (.file _) => simp [Except.map, Entry.kind]

theorem meets_writeBytes : Meets (Files.writeBytes World.system path data) fun e _ e' =>
    e.tree.Writable path ∧ ∃ t', e.tree.write path data = .ok t' ∧ e' = { e with tree := t' } := by
  rw [Files.writeBytes_eq]
  refine Meets.congr (looks_checkParent.look_bind fun _ => looks_checkPlain.look_bind fun _ =>
    meets_write_bind ((looks_pure ()).congr fun _ _ => by simp) fun _ => looks_throw _)
    fun e _ e' => ⟨?_, ?_⟩
  · rintro ⟨_, hparent, _, hplain, t', h, rfl⟩
    exact ⟨⟨hparent, hplain, Tree.exists_write h⟩, t', h, rfl⟩
  · rintro ⟨hwritable, h⟩
    exact ⟨(), hwritable.parent, (), hwritable.plain, h⟩

theorem meets_present (content : String) : Meets (Files.present World.system path content)
    fun e _ e' => e.tree.Writable path ∧
      ∃ t', e.tree.write path content.toUTF8 = .ok t' ∧ e' = { e with tree := t' } := by
  refine (meets_writeBytes.bind fun _ => looks_error _).congr fun e _ e' => ⟨?_, ?_⟩
  · rintro ⟨_, _, h, -, rfl⟩
    exact h
  · exact fun h => ⟨(), e', h, trivial, rfl⟩

end Run

/-! ### The exit code of a rendering -/

namespace View

/-- A rendering shows this exit code: as a member of the document, or at the end of the last
line. -/
inductive Shows (code : Nat) : Format → String → Prop
  | json {doc : Json} (h : doc.get "exit_code" = .number (toString code)) :
    Shows code .json (doc.pretty ++ "\n")
  | text {front : String} : Shows code .text (front ++ " (exit code " ++ toString code ++ ")\n")

/-- The last line of a text. -/
theorem exists_text_eq (v : View) (colored : Bool) :
    ∃ front, v.text colored = front ++ " (exit code " ++ toString v.exitCode ++ ")\n" := by
  let front := ["BDBA report: " ++ v.link, "Scan status: " ++ v.status] ++ v.verdictLines colored ++
    v.groups.flatMap (·.lines colored) ++ v.unversionedLines colored ++ [""]
  have hlines : v.lines colored = front ++ ["Result: " ++ v.outcome.tint.paint colored v.message ++
      " (exit code " ++ toString v.exitCode ++ ")"] := by
    simp [lines, resultLines, front]
  refine ⟨String.join (front.map (· ++ "\n")) ++
    ("Result: " ++ v.outcome.tint.paint colored v.message), ?_⟩
  rw [text, hlines, List.map_append]
  simp [String.append_assoc]

theorem shows_render (v : View) (format : Format) (colored : Bool) {code : Nat}
    (h : v.exitCode = code) : Shows code format (v.render format colored) := by
  have htext : toString v.exitCode = toString code := by rw [h]; rfl
  cases format with
  | json =>
    have hget : v.toJson.get "exit_code" = .number (toString code) := htext ▸ rfl
    exact .json hget
  | text =>
    obtain ⟨front, hfront⟩ := v.exists_text_eq colored
    change Shows code .text (v.text colored)
    rw [hfront, htext]
    exact .text

end View

end ScanGate
