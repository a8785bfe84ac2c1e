import ScanGate.Files.Path
import ScanGate.Proofs.Text.Split

/-! The names in a path. The last component of a path is its last piece that names something:
behind it there are only empty pieces and dots. A path without a slash has itself as its name, and
lies in the current directory. -/
namespace ScanGate.Path

open Text (splitAt)

variable {path name : String} {cs p : List Char} {ps : List (List Char)}

/-- The pieces of a path. -/
theorem pieces_eq (cs : List Char) : pieces cs = splitAt (· == '/') cs := by
  induction cs with
  | nil => rfl
  | cons c cs ih =>
    by_cases hc : c = '/'
    · subst hc
      rw [pieces, ih]
      rfl
    · have hne : (c == '/') = false := beq_eq_false_iff_ne.mpr hc
      rw [pieces.eq_def, splitAt, hne, ← ih]
      split
      · next heq => cases heq
      · next heq => exact absurd (List.cons.inj heq).1 hc
      · next heq =>
        cases heq
        rfl

/-- Whether a piece names something; an empty one and a dot do not. -/
def isStep (p : List Char) : Bool := !p.isEmpty && p != ['.']

theorem isStep_iff : isStep p = true ↔ p ≠ [] ∧ p ≠ ['.'] := by
  simp [isStep]

theorem not_isStep_iff : ¬ isStep p = true ↔ p = [] ∨ p = ['.'] := by
  by_cases hp : p = [] <;> simp [isStep, hp]

theorem map_fst_go (offset : Nat) (ps : List (List Char)) :
    (components.go true offset ps).map Prod.fst = ps.filter isStep := by
  induction ps generalizing offset with
  | nil => rfl
  | cons p ps ih =>
    by_cases hp : isStep p = true
    · obtain ⟨hne, hdot⟩ := isStep_iff.mp hp
      rw [components.go, if_neg (by simp [hne, hdot]), List.filter_cons_of_pos hp, List.map_cons,
        ih]
    · have hskip : (p.isEmpty || (true && p == ['.'])) = true := by
        obtain rfl | rfl := not_isStep_iff.mp hp <;> rfl
      rw [components.go, if_pos hskip, List.filter_cons_of_neg hp, ih]

/-- A dot at the start may be a component, but it does not name anything. -/
theorem map_fst_components (cs : List Char) :
    (components cs).map Prod.fst = (splitAt (· == '/') cs).filter isStep ∨
      (components cs).map Prod.fst = ['.'] :: (splitAt (· == '/') cs).filter isStep := by
  rw [components, pieces_eq]
  cases (cs.head? == some '/') with
  | true => exact .inl (map_fst_go 0 _)
  | false =>
    obtain ⟨p, ps, hps⟩ := Text.exists_splitAt_eq (· == '/') cs
    rw [hps]
    by_cases hp : p = ['.']
    · subst hp
      exact .inr (congrArg (['.'] :: ·) (map_fst_go 2 ps))
    · refine .inl ((congrArg (List.map Prod.fst) ?_).trans (map_fst_go 0 (p :: ps)))
      simp [components.go, hp]

/-- The name is the last piece that names something; it is not that of the directory above. -/
structure IsLastName (path name : String) : Prop where
  last : ∃ front back, splitAt (· == '/') path.toList = front ++ name.toList :: back ∧
    ∀ p ∈ back, p = [] ∨ p = ['.']
  nonempty : name.toList ≠ []
  notDot : name.toList ≠ ['.']
  notDots : name.toList ≠ ['.', '.']

theorem getLast?_filter_eq_some_iff {ps : List (List Char)} :
    (ps.filter isStep).getLast? = some p ↔ isStep p = true ∧
      ∃ front back, ps = front ++ p :: back ∧ ∀ q ∈ back, q = [] ∨ q = ['.'] := by
  rw [List.getLast?_eq_head?_reverse, ← List.filter_reverse, List.head?_filter,
    List.find?_eq_some_iff_append]
  refine and_congr_right fun _ => ⟨?_, ?_⟩
  · rintro ⟨back, front, hps, hback⟩
    refine ⟨front.reverse, back.reverse, ?_, fun q hq => ?_⟩
    · simpa using congrArg List.reverse hps
    · have hq := hback q (List.mem_reverse.mp hq)
      exact not_isStep_iff.mp (by simpa using hq)
  · rintro ⟨front, back, rfl, hback⟩
    refine ⟨back.reverse, front.reverse, by simp, fun q hq => ?_⟩
    have hq := not_isStep_iff.mpr (hback q (List.mem_reverse.mp hq))
    simpa using hq

/-- The component at the end of a path. -/
theorem getLast?_components (hp : p ≠ ['.']) :
    ((components cs).map Prod.fst).getLast? = some p ↔
      ((splitAt (· == '/') cs).filter isStep).getLast? = some p := by
  obtain h | h := map_fst_components cs
  · rw [h]
  · rw [h, List.getLast?_cons]
    cases ((splitAt (· == '/') cs).filter isStep).getLast? with
    | none => simp [hp.symm]
    | some q => simp

theorem fileName?_eq_some_iff : fileName? path = some name ↔ IsLastName path name := by
  have hlast : fileName? path = some name ↔
      ((components path.toList).map Prod.fst).getLast? = some name.toList ∧
        name.toList ≠ ['.'] ∧ name.toList ≠ ['.', '.'] := by
    rw [fileName?, List.getLast?_map]
    cases (components path.toList).getLast? with
    | none => simp
    | some last =>
      obtain ⟨p, stop⟩ := last
      by_cases hp : p = name.toList
      · simp [hp]
      · have hne : String.ofList p ≠ name := fun h => hp (by rw [← h, String.toList_ofList])
        simp [hp, hne]
  rw [hlast]
  constructor
  · rintro ⟨hname, hdot, hdots⟩
    obtain ⟨hstep, hpieces⟩ := getLast?_filter_eq_some_iff.mp ((getLast?_components hdot).mp hname)
    exact ⟨hpieces, (isStep_iff.mp hstep).1, hdot, hdots⟩
  · rintro ⟨hpieces, hne, hdot, hdots⟩
    refine ⟨(getLast?_components hdot).mpr (getLast?_filter_eq_some_iff.mpr ⟨?_, hpieces⟩), hdot,
      hdots⟩
    exact isStep_iff.mpr ⟨hne, hdot⟩

/-! ### A single name -/

theorem pieces_of_notMem (h : '/' ∉ cs) : pieces cs = [cs] := by
  rw [pieces_eq]
  exact Text.splitAt_of_forall fun c hc => beq_eq_false_iff_ne.mpr fun heq => h (heq ▸ hc)

/-- A text without a slash is its own name. -/
theorem isLastName_self (hslash : '/' ∉ name.toList) (hne : name.toList ≠ [])
    (hdot : name.toList ≠ ['.']) (hdots : name.toList ≠ ['.', '.']) : IsLastName name name where
  last := ⟨[], [], (pieces_eq _).symm.trans (pieces_of_notMem hslash), by simp⟩
  nonempty := hne
  notDot := hdot
  notDots := hdots

end ScanGate.Path
