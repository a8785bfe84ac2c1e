import ScanGate.Evaluation

/-! When a waiver applies. A waiver names a finding when library, version,
vulnerability and fingerprint are those of the finding, and exactly one waiver
does: the one that is suggested for it. Findings that agree in these four have the same
waiver, and no others do. A list therefore covers a finding exactly when it holds that
waiver; order, repetitions and placeholders do not matter. The search of the list ends at the
first place where the waiver stands. -/
namespace ScanGate

/-- The four fields of the waiver are there and are those of the finding; only the
version may be missing on both sides. -/
def Waiver.Names (w : Waiver) (f : Finding) : Prop :=
  w.library = some f.library ∧ w.version = f.version ∧ w.cve = some f.cve ∧
    w.fingerprint = some f.fingerprint

theorem Waiver.names_iff {w : Waiver} {f : Finding} : w.Names f ↔ w = f.waiver := by
  obtain ⟨cve, library, version, fingerprint⟩ := w
  simp only [Names, Finding.waiver, Waiver.mk.injEq]
  constructor
  · rintro ⟨hl, hv, hc, hf⟩
    exact ⟨hc, hl, hv, hf⟩
  · rintro ⟨hc, hl, hv, hf⟩
    exact ⟨hl, hv, hc, hf⟩

/-- Two findings are about one vulnerability of one version of a library. -/
def Finding.SameIssue (f g : Finding) : Prop :=
  f.library = g.library ∧ f.version = g.version ∧ f.cve = g.cve

theorem Finding.waiver_eq_iff {f g : Finding} :
    f.waiver = g.waiver ↔ f.SameIssue g ∧ f.fingerprint = g.fingerprint := by
  simp only [waiver, SameIssue, Waiver.mk.injEq, Option.some.injEq]
  constructor
  · rintro ⟨hcve, hlibrary, hversion, hfingerprint⟩
    exact ⟨⟨hlibrary, hversion, hcve⟩, hfingerprint⟩
  · rintro ⟨⟨hlibrary, hversion, hcve⟩, hfingerprint⟩
    exact ⟨hcve, hlibrary, hversion, hfingerprint⟩

@[simp] theorem Finding.isPlaceholder_waiver (f : Finding) : f.waiver.isPlaceholder = false := rfl

theorem Waiver.fits_iff {w : Waiver} {f : Finding} : w.fits f = true ↔ w = f.waiver := by
  rw [← names_iff]
  simp only [fits, Names, Bool.and_eq_true, Bool.not_eq_true', beq_iff_eq]
  constructor
  · rintro ⟨⟨⟨⟨-, hl⟩, hv⟩, hc⟩, hf⟩
    exact ⟨hl, hv, hc, hf⟩
  · rintro ⟨hl, hv, hc, hf⟩
    refine ⟨⟨⟨⟨?_, hl⟩, hv⟩, hc⟩, hf⟩
    simp [isPlaceholder, hl, hc, hf]

/-- Its own waiver tells a finding from those with another one. -/
theorem Waiver.forall_fits_iff {f g : Finding} :
    (∀ w : Waiver, w.fits f = true ↔ w.fits g = true) ↔ f.waiver = g.waiver := by
  simp only [fits_iff]
  constructor
  · intro h
    exact (h f.waiver).mp rfl
  · intro h w
    rw [h]

namespace WaiverList

theorem covers_iff {ws : WaiverList} {f : Finding} : ws.covers f = true ↔ f.waiver ∈ ws := by
  simp only [covers, match?, List.find?_isSome, Waiver.fits_iff, exists_eq_right]

theorem covers_eq (ws : WaiverList) (f : Finding) : ws.covers f = decide (f.waiver ∈ ws) := by
  rw [Bool.eq_iff_iff, covers_iff, decide_eq_true_iff]

/-! ### The place that is found -/

/-- The waiver stands at this place of the list and at none before it. -/
structure FirstAt (ws : WaiverList) (w : Waiver) (i : Nat) : Prop where
  here : ws[i]? = some w
  notBefore : ∀ j < i, ws[j]? ≠ some w

variable {ws : WaiverList} {f g : Finding}

theorem position?_eq_some_iff {i : Nat} : ws.position? f = some i ↔ ws.FirstAt f.waiver i := by
  rw [position?, List.findIdx?_eq_some_iff_getElem]
  simp only [Waiver.fits_iff]
  constructor
  · rintro ⟨hi, hw, hbefore⟩
    refine ⟨List.getElem?_eq_some_iff.mpr ⟨hi, hw⟩, fun j hj hsome => ?_⟩
    obtain ⟨_, hw'⟩ := List.getElem?_eq_some_iff.mp hsome
    exact hbefore j hj hw'
  · rintro ⟨here, notBefore⟩
    obtain ⟨hi, hw⟩ := List.getElem?_eq_some_iff.mp here
    refine ⟨hi, hw, fun j hj hw' => notBefore j hj ?_⟩
    exact List.getElem?_eq_some_iff.mpr ⟨Nat.lt_trans hj hi, hw'⟩

/-- The waiver that is found is the one at the place that is found. -/
theorem match?_eq_bind (ws : WaiverList) (f : Finding) :
    ws.match? f = (ws.position? f).bind (ws[·]?) :=
  List.find?_eq_bind_findIdx?_getElem?

theorem match?_eq_some_iff {w : Waiver} :
    ws.match? f = some w ↔ ∃ i, ws.FirstAt f.waiver i ∧ ws[i]? = some w := by
  simp only [match?_eq_bind, Option.bind_eq_some_iff, position?_eq_some_iff]

theorem match?_eq_none_iff : ws.match? f = none ↔ f.waiver ∉ ws := by
  rw [← covers_iff, covers, Option.not_isSome_iff_eq_none]

theorem position?_eq_none_iff : ws.position? f = none ↔ f.waiver ∉ ws := by
  rw [← match?_eq_none_iff, match?, position?, List.findIdx?_eq_none_iff, List.find?_eq_none]
  simp only [Bool.not_eq_true]

/-- So does the list of that waiver alone. -/
theorem forall_position?_iff :
    (∀ ws : WaiverList, ws.position? f = ws.position? g) ↔ f.waiver = g.waiver := by
  constructor
  · intro h
    have hf : FirstAt f.suggestion f.waiver 0 := ⟨rfl, nofun⟩
    rw [← position?_eq_some_iff, h, position?_eq_some_iff] at hf
    exact Option.some.inj hf.here
  · intro h ws
    refine Option.ext fun i => ?_
    rw [position?_eq_some_iff, position?_eq_some_iff, h]

/-- The search of a list for a finding is the search for one value, the suggested waiver with
all four fields of the finding: it ends at the first place where that waiver stands, and without
result when the waiver is missing. The findings to which the same waivers apply, on every list
at the same place, are those with the same suggested waiver. -/
theorem finds_first_suggested :
    (∀ (ws : WaiverList) (f : Finding),
      (∀ i, ws.position? f = some i ↔ ws.FirstAt f.waiver i) ∧
      (∀ w, ws.match? f = some w ↔ ∃ i, ws.FirstAt f.waiver i ∧ ws[i]? = some w) ∧
      (ws.position? f = none ↔ f.waiver ∉ ws) ∧ (ws.match? f = none ↔ f.waiver ∉ ws) ∧
      (ws.covers f = true ↔ f.waiver ∈ ws)) ∧
    (∀ (w : Waiver) (f : Finding), w = f.waiver ↔ w.Names f) ∧
    ∀ f g : Finding,
      ((∀ w : Waiver, w.fits f = true ↔ w.fits g = true) ↔ f.waiver = g.waiver) ∧
      ((∀ ws : WaiverList, ws.position? f = ws.position? g) ↔ f.waiver = g.waiver) := by
  refine ⟨fun ws f => ?_, fun w f => Waiver.names_iff.symm, fun f g => ?_⟩
  · exact ⟨fun i => position?_eq_some_iff, fun w => match?_eq_some_iff, position?_eq_none_iff,
      match?_eq_none_iff, covers_iff⟩
  · exact ⟨Waiver.forall_fits_iff, forall_position?_iff⟩

example : let f : Finding := { library := "libfoo", cve := "CVE-1", fingerprint := "f00d" }
    position? [{}, { f.waiver with version := some "" }, f.waiver, f.waiver] f = some 2 := by
  decide

end WaiverList

end ScanGate
