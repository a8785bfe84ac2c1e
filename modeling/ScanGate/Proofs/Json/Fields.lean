import Mathlib.Data.List.Forall2
import ScanGate.Proofs.Json.Records
import ScanGate.Proofs.Json.RoundTrip

/-! What a decoder asks of a record, said about the record itself. An object has its fields
when its keys are texts and no name of a field stands twice; the field is then what stands
under the name. A list is decoded item by item. -/
namespace ScanGate.Json

variable {α : Type} {key : String} {names : List String} {value : Json}
  {members before after : List (Option String × Json)}

/-! ### Values under a key -/

/-- The values of the members with this key, in their order. -/
def valuesAt (key : String) (members : List (Option String × Json)) : List Json :=
  (members.filter fun member => member.1 == some key).map (·.2)

theorem length_valuesAt (key : String) (members : List (Option String × Json)) :
    (valuesAt key members).length = occurrences key members := by
  rw [valuesAt, List.length_map, occurrences, List.countP_eq_length_filter]

theorem member?_eq_head? (key : String) (members : List (Option String × Json)) :
    member? key members = (valuesAt key members).head? := by
  induction members with
  | nil => rfl
  | cons member members ih =>
    obtain ⟨k, value⟩ := member
    by_cases hk : k = some key
    · simp [member?, valuesAt, hk]
    · rw [member?, if_neg hk, ih]
      simp [valuesAt, hk]

/-- Every key is a text, and no name is the key of two members. -/
def Regular (names : List String) (members : List (Option String × Json)) : Prop :=
  (∀ member ∈ members, member.1 ≠ none) ∧ ∀ name ∈ names, (valuesAt name members).length ≤ 1

theorem fields_object (names : List String) (members : List (Option String × Json)) :
    fields names (object members) = some (names.map (member? · members)) ↔
      Regular names members := by
  have hkeys : (members.all fun member => member.1.isSome) = true ↔
      ∀ member ∈ members, member.1 ≠ none := by
    simp only [List.all_eq_true, Option.isSome_iff_ne_none]
  have hnames : (names.all (occurrences · members ≤ 1)) = true ↔
      ∀ name ∈ names, (valuesAt name members).length ≤ 1 := by
    simp only [List.all_eq_true, decide_eq_true_eq, length_valuesAt]
  simp only [fields, Option.ite_none_right_eq_some, and_true, Regular, ← hkeys, ← hnames]

theorem fields_object_eq_some_iff {fs : List (Option Json)} :
    fields names (object members) = some fs ↔
      Regular names members ∧ fs = names.map (member? · members) := by
  rw [← fields_object]
  simp only [fields, Option.ite_none_right_eq_some, Option.some.injEq, and_true]
  exact and_congr_right fun _ => eq_comm

theorem fields_object_eq_none (h : ¬ Regular names members) :
    fields names (object members) = none :=
  Option.eq_none_iff_forall_ne_some.mpr fun _ hfs => h (fields_object_eq_some_iff.mp hfs).1

/-- What stands under a name in a record whose keys differ. -/
theorem valuesAt_record {ms : List (String × Json)} (hkeys : (ms.map (·.1)).Nodup)
    (name : String) :
    valuesAt name (ms.map fun (key, value) => (some key, value)) = (ms.lookup name).toList := by
  induction ms with
  | nil => rfl
  | cons m ms ih =>
    obtain ⟨key, value⟩ := m
    rw [List.map_cons, List.nodup_cons] at hkeys
    have ih := ih hkeys.2
    by_cases hk : key = name
    · subst hk
      have hnone : ms.lookup key = none := by
        rw [List.lookup_eq_none_iff]
        intro m hm
        have hne : key ≠ m.1 := fun h => hkeys.1 (List.mem_map.mpr ⟨m, hm, h.symm⟩)
        simpa using hne
      rw [hnone] at ih
      simpa [valuesAt] using ih
    · have hne : (name == key) = false := by simpa using Ne.symm hk
      rw [List.lookup_cons, hne, ← ih]
      simp [valuesAt, hk]

theorem fields_record {ms : List (String × Json)} (hkeys : (ms.map (·.1)).Nodup)
    (names : List String) : fields names (record ms) = some (names.map (ms.lookup ·)) := by
  rw [record, fields_object_eq_some_iff]
  refine ⟨⟨?_, ?_⟩, ?_⟩
  · intro member hmember hnone
    obtain ⟨m, -, rfl⟩ := List.mem_map.mp hmember
    cases hnone
  · intro name _
    rw [valuesAt_record hkeys]
    cases ms.lookup name <;> simp
  · simp only [member?_eq_head?, valuesAt_record hkeys, Option.head?_toList]

/-! ### Numbers in a field -/

theorem isWellFormed_of_member? (hm : wellFormedMembers members)
    (h : member? key members = some value) : value.IsWellFormed := by
  induction members with
  | nil => cases h
  | cons member members ih =>
    obtain ⟨k, v⟩ := member
    rw [member?] at h
    split at h
    · cases h
      exact hm.1
    · exact ih hm.2 h

/-- A field of what is well formed is well formed. -/
theorem isWellFormed_of_fields {field : Json} {fs : List (Option Json)} (hv : value.IsWellFormed) (h : fields names value = some fs)
    (hfield : some field ∈ fs) : field.IsWellFormed := by
  cases value with
  | object members =>
    simp only [fields, Option.ite_none_right_eq_some, Option.some.injEq] at h
    rw [← h.2] at hfield
    obtain ⟨name, -, hname⟩ := List.mem_map.mp hfield
    exact isWellFormed_of_member? hv hname
  | array items =>
    simp only [fields, Option.ite_none_right_eq_some, Option.some.injEq] at h
    rw [← h.2, List.mem_append] at hfield
    obtain hitem | habsent := hfield
    · obtain ⟨item, hitem, hsome⟩ := List.mem_map.mp hitem
      cases hsome
      exact wellFormedItems_iff.mp hv _ hitem
    · cases List.eq_of_mem_replicate habsent
  | _ => cases h

/-! ### Decoding a field -/

theorem optional_of_ne_null {decode : Json → Option α} (hv : value ≠ null) :
    optional decode (some value) = (decode value).map some := by
  rw [optional]
  rintro rfl
  exact hv rfl

theorem orDefault_of_ne_null {decode : Json → Option α} {d : α} (hv : value ≠ null) :
    orDefault d decode (some value) = decode value := by
  rw [orDefault, optional_of_ne_null hv, Option.map_map]
  exact Option.map_id'

theorem orDefault_some {decode : Json → Option α} {d x : α} (hv : value ≠ null)
    (h : decode value = some x) : orDefault d decode (some value) = some x :=
  (orDefault_of_ne_null hv).trans h

theorem optional_optionalText (s : Option String) :
    optional text? (some (optionalText s)) = some s := by
  cases s <;> rfl

/-! ### Lists -/

theorem mapM_eq_some_iff {decode : Json → Option α} {items : List Json} {xs : List α} :
    items.mapM decode = some xs ↔ List.Forall₂ (fun item x => decode item = some x) items xs := by
  induction items generalizing xs with
  | nil => simp [eq_comm]
  | cons item items ih =>
    simp only [List.mapM_cons, Option.bind_eq_bind, Option.bind_eq_some_iff, Option.pure_def,
      Option.some.injEq, ih]
    constructor
    · rintro ⟨x, hx, xs, hxs, rfl⟩
      exact .cons hx hxs
    · rintro (_ | ⟨hx, hxs⟩)
      exact ⟨_, hx, _, hxs, rfl⟩

/-- Items that can be written one by one can be written as a list. -/
theorem exists_forall₂ {r : Json → α → Prop} {xs : List α} (h : ∀ x ∈ xs, ∃ item, r item x) :
    ∃ items, List.Forall₂ r items xs := by
  induction xs with
  | nil => exact ⟨[], .nil⟩
  | cons x xs ih =>
    obtain ⟨item, hitem⟩ := h x List.mem_cons_self
    obtain ⟨items, hitems⟩ := ih fun x hx => h x (List.mem_cons_of_mem _ hx)
    exact ⟨item :: items, .cons hitem hitems⟩

theorem list_eq_some_iff {decode : Json → Option α} {xs : List α} :
    list decode value = some xs ↔ ∃ items, value = array items ∧
      List.Forall₂ (fun item x => decode item = some x) items xs := by
  cases value with
  | array items => simp [list, mapM_eq_some_iff]
  | _ => simp [list]

/-- What reads back item by item reads back as a list. -/
theorem list_map {decode : Json → Option α} {write : α → Json} {xs : List α}
    (h : ∀ x ∈ xs, decode (write x) = some x) : list decode (array (xs.map write)) = some xs :=
  list_eq_some_iff.mpr ⟨_, rfl, List.forall₂_map_left_iff.mpr (List.forall₂_same.mpr h)⟩

theorem forall₂_of_orDefault {decode : Json → Option α} {field : Option Json} {xs : List α}
    (h : orDefault [] (list decode) field = some xs) :
    List.Forall₂ (fun item x => decode item = some x) (field.getD null).items xs := by
  obtain ⟨o, ho, rfl⟩ := Option.map_eq_some_iff.mp h
  unfold optional at ho
  split at ho
  · cases ho
    exact .nil
  · cases ho
    exact .nil
  · obtain ⟨ys, hys, rfl⟩ := Option.map_eq_some_iff.mp ho
    obtain ⟨items, rfl, hall⟩ := list_eq_some_iff.mp hys
    exact hall

/-- In a list that is accepted every item is. -/
theorem exists_of_orDefault {decode : Json → Option α} {field : Option Json} {xs : List α}
    (h : orDefault [] (list decode) field = some xs) :
    ∀ item ∈ (field.getD null).items, ∃ x, decode item = some x := by
  have hall : List.Forall₂ (fun item _ => (∃ x, decode item = some x) ∧ True)
      (field.getD null).items xs :=
    (forall₂_of_orDefault h).imp fun _ x hx => ⟨⟨x, hx⟩, trivial⟩
  exact ((List.forall₂_and_left _ _).mp hall).1

end ScanGate.Json
