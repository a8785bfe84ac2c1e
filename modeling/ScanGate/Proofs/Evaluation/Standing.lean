import ScanGate.Proofs.Evaluation.Reference

/-! What one more waiver does. The findings of a component stand in a row, in the order of the
report, and each of them is active or waived; the two lists of the group are dealt out from the
row. Findings that agree in library, version, vulnerability and fingerprint share their waiver,
so they are always on the same side. When the waiver of an active finding is put on the list, at
whatever place, the findings like it change sides where they stand, in every component, and all
else stays as it was. -/
namespace ScanGate

/-- The findings have library, version, vulnerability and fingerprint in common. -/
def Finding.Alike (f g : Finding) : Prop := f.SameIssue g ∧ f.fingerprint = g.fingerprint

theorem Finding.alike_iff {f g : Finding} : f.Alike g ↔ f.waiver = g.waiver := waiver_eq_iff.symm

instance (f g : Finding) : Decidable (f.Alike g) := decidable_of_iff _ Finding.alike_iff.symm

/-! ### Rows -/

/-- A finding in its row. -/
structure Standing where
  finding : Finding
  waived : Bool
  deriving DecidableEq

/-- A finding like `f` is waived from now on. -/
def Standing.waive (f : Finding) (s : Standing) : Standing :=
  if f.Alike s.finding then { s with waived := true } else s

/-- The two lists of the group are those of the row, each in the order of the row. -/
structure Group.Deals (g : Group) (row : List Standing) : Prop where
  active : g.active = (row.filter (!·.waived)).map (·.finding)
  suppressed : g.suppressed = (row.filter (·.waived)).map (·.finding)

/-- The findings in a row, under a list of waivers. -/
def WaiverList.standings (ws : WaiverList) (fs : List Finding) : List Standing :=
  fs.map fun f => ⟨f, decide (f.waiver ∈ ws)⟩

namespace WaiverList

variable {ws xs ys : WaiverList} {fs : List Finding} {f : Finding}

theorem map_finding_standings (ws : WaiverList) (fs : List Finding) :
    (ws.standings fs).map (·.finding) = fs := by
  rw [standings, List.map_map]
  exact List.map_id fs

theorem standing_insert (g : Finding) :
    (⟨g, decide (g.waiver ∈ xs ++ f.waiver :: ys)⟩ : Standing) =
      Standing.waive f ⟨g, decide (g.waiver ∈ xs ++ ys)⟩ := by
  unfold Standing.waive
  by_cases h : f.Alike g
  · simp [h, ← Finding.alike_iff.mp h]
  · have hne : g.waiver ≠ f.waiver := fun hw => h (Finding.alike_iff.mpr hw.symm)
    simp [h, hne]

/-- One more waiver waives the findings like its own, each where it stands. -/
theorem standings_insert (fs : List Finding) : (xs ++ f.waiver :: ys).standings fs =
    ((xs ++ ys).standings fs).map (Standing.waive f) := by
  simp only [standings, List.map_map]
  exact List.map_congr_left fun g _ => standing_insert g

theorem waived_eq_false_of_alike (hf : f.waiver ∉ ws) {s : Standing} (hs : s ∈ ws.standings fs)
    (h : f.Alike s.finding) : s.waived = false := by
  obtain ⟨g, -, rfl⟩ := List.mem_map.mp hs
  rw [decide_eq_false_iff_not, ← Finding.alike_iff.mp h]
  exact hf

end WaiverList

theorem Component.deals_group (c : Component) (t : Threshold) (ws : WaiverList) :
    (c.group t ws).Deals (ws.standings (c.expected t)) := by
  have hmap (p : Standing → Bool) : ((ws.standings (c.expected t)).filter p).map (·.finding) =
      (c.expected t).filter fun f => p ⟨f, decide (f.waiver ∈ ws)⟩ := by
    rw [WaiverList.standings, List.filter_map, List.map_map]
    exact List.map_id _
  constructor
  · rw [hmap, group, findings_eq]
    simp only [decide_not]
  · rw [hmap, group, findings_eq]

/-! ### Evaluations -/

namespace Evaluation

/-- From the first evaluation to the second, the findings like `f` and no others change sides:
they were active and are suppressed. `payload` holds the findings of each group in the order of
the report. -/
structure Moves (f : Finding) (payload : List (List Finding)) (e e' : Evaluation) : Prop where
  groups : e'.groups.map (fun g => (g.library, g.version, g.latest)) =
    e.groups.map fun g => (g.library, g.version, g.latest)
  unversioned : e'.unversioned = e.unversioned
  rows : ∃ rows : List (List Standing), rows.map (·.map (·.finding)) = payload ∧
    List.Forall₂ Group.Deals e.groups rows ∧
    List.Forall₂ Group.Deals e'.groups (rows.map (·.map (Standing.waive f))) ∧
    ∀ row ∈ rows, ∀ s ∈ row, f.Alike s.finding → s.waived = false

/-- The rows of the reported components, in the order of the report. -/
def standings (cs : List Component) (t : Threshold) (ws : WaiverList) : List (List Standing) :=
  (cs.filter fun c => decide (c.Reported t)).map fun c => ws.standings (c.expected t)

variable {cs : List Component} {t : Threshold} {ws xs ys : WaiverList} {f : Finding}

theorem deals_groups (cs : List Component) (t : Threshold) (ws : WaiverList) :
    List.Forall₂ Group.Deals (ofComponents cs t ws).groups (standings cs t ws) := by
  rw [groups_ofComponents, standings, List.forall₂_map_left_iff, List.forall₂_map_right_iff,
    List.forall₂_same]
  exact fun c _ => c.deals_group t ws

theorem standings_insert (cs : List Component) (t : Threshold) :
    standings cs t (xs ++ f.waiver :: ys) =
      (standings cs t (xs ++ ys)).map (·.map (Standing.waive f)) := by
  simp only [standings, WaiverList.standings_insert, List.map_map]
  rfl

/-- Findings that are alike are on the same side. -/
theorem not_alike_of_mem {a b : Finding} (ha : a ∈ (ofComponents cs t ws).active)
    (hb : b ∈ (ofComponents cs t ws).suppressed) : ¬ a.Alike b := by
  intro h
  have hwaived := (mem_suppressed.mp hb).2
  rw [← Finding.alike_iff.mp h] at hwaived
  exact (mem_active.mp ha).2 hwaived

/-- The waiver of an active finding, put on the list at any place, moves the findings like it from
the active to the suppressed ones, each to its place in the report, and leaves all others, the
groups and the libraries without a version as they were. No evaluation has findings that are
alike on both sides. -/
theorem waiver_moves_alike (h : f ∈ (ofComponents cs t (xs ++ ys)).active) :
    Moves f ((cs.filter fun c => decide (c.Reported t)).map (·.expected t))
      (ofComponents cs t (xs ++ ys)) (ofComponents cs t (xs ++ f.waiver :: ys)) ∧
    ∀ (ds : List Component) (u : Threshold) (ws : WaiverList),
      ∀ a ∈ (ofComponents ds u ws).active, ∀ b ∈ (ofComponents ds u ws).suppressed,
        ¬ a.Alike b := by
  have hf : f.waiver ∉ xs ++ ys := (mem_active.mp h).2
  refine ⟨⟨map_label_groups cs t _ _, rfl, standings cs t (xs ++ ys), ?_, deals_groups cs t _,
    ?_, ?_⟩, fun ds u ws a ha b hb => not_alike_of_mem ha hb⟩
  · simp only [standings, List.map_map, Function.comp_def, WaiverList.map_finding_standings]
  · rw [← standings_insert]
    exact deals_groups cs t _
  -- Its waiver was missing, so none of those like it was waived before.
  · intro row hrow s hs
    obtain ⟨c, -, rfl⟩ := List.mem_map.mp hrow
    exact WaiverList.waived_eq_false_of_alike hf hs

/-- Findings without a library, a version or an id, the same ones twice in a component and once
more in another one with the same places. -/
def nameless : List Component := [
  { total := 3
    vulnerabilities := [{ summary := "overflow", score := .ofNat 9 },
      { cve := "CVE-1", score := .ofNat 7 }, { summary := "race", score := .ofNat 5 }] },
  { total := 1, vulnerabilities := [{ summary := "leak", score := .ofNat 8 }] }]

theorem waiver_moves_alike_nameless :
    let w : Waiver := ⟨some "CVE-1", some "", none, some (Place.fingerprint [])⟩
    let f : Finding := ⟨"", none, "", "race", .ofNat 5, Place.fingerprint []⟩
    f ∈ (ofComponents nameless .standard [w]).active ∧
      Moves f ((nameless.filter fun c => decide (c.Reported .standard)).map (·.expected .standard))
        (ofComponents nameless .standard [w]) (ofComponents nameless .standard [f.waiver, w]) ∧
      (ofComponents nameless .standard [f.waiver, w]).groups.map (·.suppressed.map (·.summary)) =
        [["overflow", "", "race"], ["leak"]] := by
  intro w f
  have hactive : f ∈ (ofComponents nameless .standard ([] ++ [w])).active := by decide +kernel
  exact ⟨hactive, (waiver_moves_alike hactive).1, by decide +kernel⟩

end Evaluation

end ScanGate
