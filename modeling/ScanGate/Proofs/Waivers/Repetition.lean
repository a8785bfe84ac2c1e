import Mathlib.Data.Finset.Card
import Mathlib.Data.List.FinRange
import Mathlib.Order.WellFounded
import ScanGate.Proofs.Waivers.Usable

/-! Waivers that are repeated. The list is gone through with the waivers seen so far at hand, and
what is found among them is a duplicate. That the waivers seen are as good as all waivers before,
placeholders and duplicates among them, is what the induction needs; then the duplicates are the
waivers at the places where one before is repeated. Without these places the list has all its
waivers, and none of the usable ones twice. -/
namespace ScanGate.WaiverList

/-! ### Places -/

/-- A waiver that is no placeholder and stands at an earlier place as well. -/
def RepeatsAt (ws : WaiverList) (i : Fin ws.length) : Prop :=
  (ws.get i).isPlaceholder = false ∧ ∃ j < i, ws.get j = ws.get i

instance (ws : WaiverList) : DecidablePred ws.RepeatsAt :=
  fun _ => inferInstanceAs (Decidable (_ ∧ _))

/-- The waivers at some of the places, in order. -/
def pick (ws : WaiverList) (p : Fin ws.length → Bool) : WaiverList :=
  ((List.finRange ws.length).filter p).map ws.get

/-- The list without the waivers that repeat an earlier one. -/
def withoutDuplicates (ws : WaiverList) : WaiverList := ws.pick fun i => !decide (ws.RepeatsAt i)

variable {ws : WaiverList} {seen seen' : List Waiver} {w : Waiver}

theorem pick_cons (p : Fin (w :: ws).length → Bool) : pick (w :: ws) p =
    if p 0 then w :: ws.pick fun i => p i.succ else ws.pick fun i => p i.succ := by
  have hrest : (((List.finRange ws.length).map Fin.succ).filter p).map (w :: ws).get =
      ws.pick fun i => p i.succ := by
    rw [List.filter_map, List.map_map]
    rfl
  simp only [pick, List.length_cons, List.finRange_succ]
  cases h : p 0 with
  | true =>
    rw [List.filter_cons_of_pos h, List.map_cons, if_pos rfl]
    exact congrArg (w :: ·) hrest
  | false =>
    rw [List.filter_cons_of_neg (by simp [h]), if_neg (by decide)]
    exact hrest

theorem mem_pick {p : Fin ws.length → Bool} : w ∈ ws.pick p ↔ ∃ i, p i = true ∧ ws.get i = w := by
  simp [pick]

/-- Each waiver is at a place that is picked or at one that is not. -/
theorem perm_pick (ws : WaiverList) (p : Fin ws.length → Bool) :
    (ws.pick p ++ ws.pick fun i => !p i).Perm ws := by
  rw [pick, pick, ← List.map_append]
  have hperm := (List.filter_append_perm p (List.finRange ws.length)).map ws.get
  rwa [List.map_get_finRange] at hperm

/-! ### The waivers seen -/

/-- Whether a placeholder was seen does not matter. -/
theorem repeated_congr (h : ∀ v : Waiver, v.isPlaceholder = false → (v ∈ seen ↔ v ∈ seen')) :
    repeated seen ws = repeated seen' ws := by
  induction ws generalizing seen seen' with
  | nil => rfl
  | cons w ws ih =>
    unfold repeated
    by_cases hw : w.isPlaceholder = true
    · rw [if_pos hw, if_pos hw, ih h]
    rw [if_neg hw, if_neg hw]
    have hseen := h w (by simpa using hw)
    by_cases hm : w ∈ seen
    · rw [if_pos hm, if_pos (hseen.mp hm), ih h]
    · rw [if_neg hm, if_neg (mt hseen.mpr hm)]
      refine ih fun v hv => ?_
      rw [List.mem_cons, List.mem_cons, h v hv]

/-- All waivers before are as good as those that the scan keeps at hand. -/
theorem repeated_cons (seen : List Waiver) (w : Waiver) (ws : WaiverList) :
    repeated seen (w :: ws) =
      if w.isPlaceholder = false ∧ w ∈ seen then w :: repeated (w :: seen) ws
      else repeated (w :: seen) ws := by
  rw [repeated]
  cases hw : w.isPlaceholder with
  | true =>
    rw [if_pos rfl, if_neg (by simp)]
    refine repeated_congr fun v hv => ?_
    have hne : v ≠ w := fun heq => by simp [heq, hw] at hv
    simp [hne]
  | false =>
    by_cases hm : w ∈ seen
    · have hseen : repeated seen ws = repeated (w :: seen) ws :=
        repeated_congr fun v _ => by simp +contextual [hm]
      simp [hm, hseen]
    · simp [hm]

/-- The places where the list repeats a waiver that was seen before or is at an earlier one. -/
def RepeatsAfter (seen : List Waiver) (ws : WaiverList) (i : Fin ws.length) : Prop :=
  (ws.get i).isPlaceholder = false ∧ (ws.get i ∈ seen ∨ ∃ j < i, ws.get j = ws.get i)

instance (seen : List Waiver) (ws : WaiverList) : DecidablePred (RepeatsAfter seen ws) :=
  fun _ => inferInstanceAs (Decidable (_ ∧ _))

theorem repeatsAfter_zero :
    RepeatsAfter seen (w :: ws) 0 ↔ w.isPlaceholder = false ∧ w ∈ seen := by
  simp [RepeatsAfter]

theorem repeatsAfter_succ {i : Fin ws.length} :
    RepeatsAfter seen (w :: ws) i.succ ↔ RepeatsAfter (w :: seen) ws i := by
  have hplaces : (∃ j : Fin (ws.length + 1), j < i.succ ∧ (w :: ws).get j = ws.get i) ↔
      ws.get i = w ∨ ∃ j < i, ws.get j = ws.get i := by
    rw [Fin.exists_fin_succ, eq_comm (a := ws.get i)]
    simp
  rw [RepeatsAfter, RepeatsAfter, List.mem_cons, or_assoc, or_left_comm]
  exact and_congr Iff.rfl (or_congr Iff.rfl hplaces)

theorem repeated_eq_pick (seen : List Waiver) (ws : WaiverList) :
    repeated seen ws = ws.pick fun i => decide (RepeatsAfter seen ws i) := by
  -- The waiver at the head joins those seen, whatever it is.
  induction ws generalizing seen with
  | nil => rfl
  | cons w ws ih =>
    rw [repeated_cons, ih (w :: seen), pick_cons]
    simp only [repeatsAfter_zero, repeatsAfter_succ, decide_eq_true_eq]

/-- The duplicates are the waivers at the places that repeat an earlier one. -/
theorem duplicates_eq_pick (ws : WaiverList) :
    ws.duplicates = ws.pick fun i => decide (ws.RepeatsAt i) := by
  have hplaces (i : Fin ws.length) : RepeatsAfter [] ws i ↔ ws.RepeatsAt i := by
    rw [RepeatsAfter, RepeatsAt, List.mem_nil_iff, false_or]
  rw [duplicates, repeated_eq_pick]
  simp only [hplaces]

example :
    let w : Waiver := ⟨some "CVE-1", some "zlib", none, some "da39a3ee"⟩
    duplicates [w, default, { w with version := some "" }, w, default, w] = [w, w] := by
  decide

/-! ### Without duplicates -/

theorem perm_withoutDuplicates (ws : WaiverList) :
    (ws.duplicates ++ ws.withoutDuplicates).Perm ws := by
  rw [duplicates_eq_pick]
  exact ws.perm_pick _

theorem isPlaceholder_of_mem_duplicates (h : w ∈ ws.duplicates) : w.isPlaceholder = false := by
  rw [duplicates_eq_pick, mem_pick] at h
  obtain ⟨i, hi, rfl⟩ := h
  exact (of_decide_eq_true hi).1

/-- A waiver stays at its first place. -/
theorem mem_withoutDuplicates : w ∈ ws.withoutDuplicates ↔ w ∈ ws := by
  rw [withoutDuplicates, mem_pick, List.mem_iff_get]
  constructor
  · rintro ⟨i, -, rfl⟩
    exact ⟨i, rfl⟩
  · intro h
    -- The first of its places does not repeat it, so it is not taken off there.
    obtain ⟨i, hi, hfirst⟩ := wellFounded_lt.has_min {i | ws.get i = w} h
    refine ⟨i, ?_, hi⟩
    rw [Bool.not_eq_true', decide_eq_false_iff_not]
    rintro ⟨-, j, hj, hsame⟩
    exact hfirst j (hsame.trans hi) hj

theorem usable_withoutDuplicates (ws : WaiverList) : ws.withoutDuplicates.usable = ws.usable := by
  ext w
  rw [mem_usable, mem_usable, mem_withoutDuplicates]

/-- There are no duplicates when no usable waiver is there twice. -/
theorem duplicates_eq_nil_iff :
    ws.duplicates = [] ↔ (ws.filter (!·.isPlaceholder)).Nodup := by
  have hrepeats : ws.duplicates = [] ↔ ∀ i, ¬ ws.RepeatsAt i := by
    simp [duplicates_eq_pick, pick]
  rw [hrepeats, List.Nodup, List.pairwise_filter, List.pairwise_iff_get]
  simp only [Bool.not_eq_true', RepeatsAt, not_and, not_exists]
  constructor
  · intro h i j hij _ hj heq
    exact h j hj i hij heq
  · intro h j hj i hij heq
    exact h i j hij (heq ▸ hj) hj heq

theorem nodup_withoutDuplicates (ws : WaiverList) :
    (ws.withoutDuplicates.filter (!·.isPlaceholder)).Nodup := by
  rw [withoutDuplicates, pick, List.Nodup, List.pairwise_filter, List.pairwise_map,
    List.pairwise_filter]
  refine (List.pairwise_lt_finRange ws.length).imp fun {i j} hij _ hj _ hp heq => ?_
  rw [Bool.not_eq_true', decide_eq_false_iff_not] at hj
  exact hj ⟨by simpa using hp, i, hij, heq⟩

theorem duplicates_withoutDuplicates (ws : WaiverList) : ws.withoutDuplicates.duplicates = [] :=
  duplicates_eq_nil_iff.mpr ws.nodup_withoutDuplicates

/-- Each usable waiver is there once, and all else are duplicates and placeholders. -/
theorem length_duplicates (ws : WaiverList) :
    ws.duplicates.length + ws.usable.card = (ws.filter (!·.isPlaceholder)).length := by
  have hduplicates : ws.duplicates.filter (!·.isPlaceholder) = ws.duplicates := by
    rw [List.filter_eq_self]
    intro w hw
    rw [isPlaceholder_of_mem_duplicates hw, Bool.not_false]
  have hcard : ws.usable.card = (ws.withoutDuplicates.filter (!·.isPlaceholder)).length := by
    rw [← usable_withoutDuplicates, usable, List.toFinset_card_of_nodup ws.nodup_withoutDuplicates]
  have hperm := (ws.perm_withoutDuplicates.filter (!·.isPlaceholder)).length_eq
  rw [List.filter_append, hduplicates, List.length_append] at hperm
  rw [hcard, hperm]

end ScanGate.WaiverList
