import Mathlib.Data.Finset.Dedup
import ScanGate.Proofs.Clearance
import ScanGate.Proofs.Digest

/-! A list of waivers is as good as the set of its usable ones. Findings have waivers that are no
placeholders, and an evaluation asks of the list only whether these are on it, so order,
repetitions and placeholders are without effect on every report. A fingerprint is written in
forty hexadecimal digits, so a waiver with another one is without effect as well. -/
namespace ScanGate

/-- The waiver has the form of those that are suggested: its fingerprint is written in forty
digits, with small letters. -/
def Waiver.HasDigest (w : Waiver) : Prop :=
  ∃ digits ∈ w.fingerprint, digits.length = 40 ∧ ∀ c ∈ digits.toList, Text.IsHexDigit c

instance : DecidablePred Waiver.HasDigest := fun _ => inferInstanceAs (Decidable (∃ _ ∈ _, _))

theorem Place.length_fingerprint (places : List Place) : (fingerprint places).length = 40 := by
  rw [fingerprint, String.length_ofList, Sha1.length_hex]

theorem Place.isHexDigit_of_mem_fingerprint {places : List Place} {c : Char}
    (h : c ∈ (fingerprint places).toList) : Text.IsHexDigit c := by
  rw [fingerprint, String.toList_ofList] at h
  exact Sha1.isHexDigit_of_mem_hex h

namespace WaiverList

/-- The waivers on the list that are no placeholders. -/
def usable (ws : WaiverList) : Finset Waiver := (ws.filter (!·.isPlaceholder)).toFinset

theorem mem_usable {ws : WaiverList} {w : Waiver} :
    w ∈ ws.usable ↔ w ∈ ws ∧ w.isPlaceholder = false := by
  simp [usable]

theorem waiver_mem_usable {ws : WaiverList} {f : Finding} :
    f.waiver ∈ ws.usable ↔ f.waiver ∈ ws := by
  rw [mem_usable, f.isPlaceholder_waiver]
  exact and_iff_left rfl

end WaiverList

namespace Evaluation

variable {cs : List Component} {t : Threshold} {ws vs : WaiverList}

theorem hasDigest_waiver {f : Finding} (h : f ∈ findings cs t) : f.waiver.HasDigest := by
  obtain ⟨c, -, -, -, v, -, -, rfl⟩ := mem_findings.mp h
  exact ⟨_, rfl, Place.length_fingerprint _, fun _ => Place.isHexDigit_of_mem_fingerprint⟩

/-- Only the usable waivers matter, and each of them only once. -/
theorem ofComponents_eq_of_usable (h : ws.usable = vs.usable) :
    ofComponents cs t ws = ofComponents cs t vs :=
  ofComponents_congr fun f _ => by
    rw [← WaiverList.waiver_mem_usable, h, WaiverList.waiver_mem_usable]

/-- Only the waivers with a fingerprint that can be one matter. -/
theorem ofComponents_filter_hasDigest (cs : List Component) (t : Threshold) (ws : WaiverList) :
    ofComponents cs t (ws.filter fun w => decide w.HasDigest) = ofComponents cs t ws :=
  ofComponents_congr fun f hf => by
    rw [List.mem_filter, decide_eq_true_iff]
    exact and_iff_left (hasDigest_waiver hf)

end Evaluation

namespace WaiverList

open Evaluation

/-- Every report has the same evaluation and the same outcome under the two lists. -/
def Interchangeable (ws vs : WaiverList) : Prop :=
  ∀ (r : Report) (t : Threshold),
    ofComponents r.components t ws = ofComponents r.components t vs ∧
    ∀ p, r.outcome t ws p = r.outcome t vs p

variable {ws vs : WaiverList}

theorem interchangeable_of_forall
    (h : ∀ cs t, ofComponents cs t ws = ofComponents cs t vs) : ws.Interchangeable vs := by
  refine fun r t => ⟨h r.components t, fun p => ?_⟩
  rw [Report.outcome, h, Report.outcome]

theorem interchangeable_of_usable (h : ws.usable = vs.usable) : ws.Interchangeable vs :=
  interchangeable_of_forall fun _ _ => ofComponents_eq_of_usable h

/-- Two lists with the same usable waivers, in whatever order, number and company of placeholders,
give every report the same evaluation and the same outcome. So does a list without the waivers
whose fingerprint is not written in forty hexadecimal digits. -/
theorem usable_suffices (h : ws.usable = vs.usable) :
    ws.Interchangeable vs ∧
    ∀ us : WaiverList, Interchangeable (us.filter fun w => decide w.HasDigest) us :=
  ⟨interchangeable_of_usable h,
    fun us => interchangeable_of_forall fun cs t => ofComponents_filter_hasDigest cs t us⟩

/-- Two findings of one component, and what a list may hold besides their waivers. -/
theorem usable_suffices_shuffled :
    let digits := Place.fingerprint [["fw.bin"]]
    let v : Waiver := ⟨some "CVE-1", some "zlib", none, some digits⟩
    let w : Waiver := ⟨some "CVE-2", some "zlib", none, some digits⟩
    let u : Waiver := ⟨some "CVE-3", none, none, some digits⟩
    let c : Component := {
      library := "zlib", places := [["fw.bin"]], total := 2
      vulnerabilities := [{ cve := "CVE-1", score := .ofNat 5 },
        { cve := "CVE-2", score := .ofNat 9 }] }
    usable [v, w] = usable [w, u, default, v, w] ∧
      ofComponents [c] .standard [v, w] = ofComponents [c] .standard [w, u, default, v, w] ∧
      (ofComponents [c] .standard [v, w]).active = [] := by
  intro digits v w u c
  have husable : usable [v, w] = usable [w, u, default, v, w] := by decide +kernel
  let r : Report := { status := .ready, verdict := .pass, detail := "", components := [c] }
  exact ⟨husable, ((usable_suffices husable).1 r .standard).1, by decide +kernel⟩

end WaiverList

end ScanGate
