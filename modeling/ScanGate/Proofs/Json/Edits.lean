import Mathlib.Order.Nat
import ScanGate.Proofs.Json.Fields

/-! Changes at one place of a value. Everything around the place stays, so a change is said
once for the place, and what it keeps is carried up to the whole value by an induction on
the path. Reordering the members of one object keeps the depth of a value and that it can
be read in full. -/
namespace ScanGate.Json

/-- One step down into a value. -/
inductive Key where
  | member (name : Option String)
  | item (i : Nat)

/-- The values differ at the end of the path only, and there as `r` says. -/
inductive At (r : Json → Json → Prop) : List Key → Json → Json → Prop
  | here {v v' : Json} (h : r v v') : At r [] v v'
  | member {path : List Key} {name : Option String} {v v' : Json}
      {before after : List (Option String × Json)} (h : At r path v v') :
      At r (.member name :: path) (object (before ++ (name, v) :: after))
        (object (before ++ (name, v') :: after))
  | item {path : List Key} {v v' : Json} {before after : List Json} (h : At r path v v') :
      At r (.item before.length :: path) (array (before ++ v :: after))
        (array (before ++ v' :: after))

/-- The same members in any order. -/
inductive Permuted : Json → Json → Prop
  | object {members members' : List (Option String × Json)} (h : members.Perm members') :
      Permuted (object members) (object members')

variable {path : List Key} {v v' : Json} {names : List String} {name : String} {n : Nat}
  {items : List Json} {members members' before after : List (Option String × Json)}

/-! ### Depth -/

theorem depthItems_le_iff : depthItems items ≤ n ↔ ∀ item ∈ items, item.depth ≤ n := by
  induction items with
  | nil => simp [depthItems]
  | cons item items ih => rw [depthItems, Nat.max_le, ih, List.forall_mem_cons]

theorem depthMembers_le_iff :
    depthMembers members ≤ n ↔ ∀ member ∈ members, member.2.depth ≤ n := by
  induction members with
  | nil => simp [depthMembers]
  | cons member members ih => rw [depthMembers, Nat.max_le, ih, List.forall_mem_cons]

theorem At.depth_eq (h : At Permuted path v v') : v.depth = v'.depth := by
  induction h with
  | here h =>
    obtain ⟨h⟩ := h
    refine congrArg (· + 1) (eq_of_forall_ge_iff fun n => ?_)
    simp only [depthMembers_le_iff, h.mem_iff]
  | member h ih =>
    refine congrArg (· + 1) (eq_of_forall_ge_iff fun n => ?_)
    simp only [depthMembers_le_iff, List.forall_mem_append, List.forall_mem_cons, ih]
  | item h ih =>
    refine congrArg (· + 1) (eq_of_forall_ge_iff fun n => ?_)
    simp only [depthItems_le_iff, List.forall_mem_append, List.forall_mem_cons, ih]

/-! ### Reading in full -/

theorem wholeItems_eq_all (items : List Json) : wholeItems items = items.all isWhole := by
  induction items with
  | nil => rfl
  | cons item items ih => rw [wholeItems, ih, List.all_cons]

theorem wholeMembers_eq_all (members : List (Option String × Json)) :
    wholeMembers members = members.all fun member => member.1.isSome && member.2.isWhole := by
  induction members with
  | nil => rfl
  | cons member members ih => rw [wholeMembers, ih, List.all_cons]

theorem At.isWhole_eq (h : At Permuted path v v') : v.isWhole = v'.isWhole := by
  induction h with
  | here h =>
    obtain ⟨h⟩ := h
    simp only [isWhole, wholeMembers_eq_all]
    exact h.all_eq
  | member h ih => simp only [isWhole, wholeMembers_eq_all, List.all_append, List.all_cons, ih]
  | item h ih => simp only [isWhole, wholeItems_eq_all, List.all_append, List.all_cons, ih]

/-! ### Values under a key -/

theorem valuesAt_append (name : String) (before after : List (Option String × Json)) :
    valuesAt name (before ++ after) = valuesAt name before ++ valuesAt name after := by
  rw [valuesAt, List.filter_append, List.map_append]
  rfl

theorem valuesAt_cons_self (v : Json) (after : List (Option String × Json)) :
    valuesAt name ((some name, v) :: after) = v :: valuesAt name after := by
  simp [valuesAt]

theorem valuesAt_cons_ne {key : Option String} (h : key ≠ some name) (v : Json)
    (after : List (Option String × Json)) :
    valuesAt name ((key, v) :: after) = valuesAt name after := by
  simp [valuesAt, h]

theorem valuesAt_insert_ne {key : Option String} (h : key ≠ some name) (v : Json) :
    valuesAt name (before ++ (key, v) :: after) = valuesAt name (before ++ after) := by
  rw [valuesAt_append, valuesAt_append, valuesAt_cons_ne h]

theorem valuesAt_eq_nil (h : ∀ member ∈ members, member.1 ≠ some name) :
    valuesAt name members = [] := by
  rw [valuesAt, List.filter_eq_nil_iff.mpr, List.map_nil]
  intro member hmember
  simpa using h member hmember

/-- The one value under a key that stands nowhere else. -/
theorem valuesAt_insert_self (h : ∀ member ∈ before ++ after, member.1 ≠ some name) (v : Json) :
    valuesAt name (before ++ (some name, v) :: after) = [v] := by
  rw [List.forall_mem_append] at h
  rw [valuesAt_append, valuesAt_cons_self, valuesAt_eq_nil h.1, valuesAt_eq_nil h.2,
    List.nil_append]

/-! ### A new member -/

theorem texts_insert {key : String} {v : Json} :
    (∀ member ∈ before ++ (some key, v) :: after, member.1 ≠ none) ↔
      ∀ member ∈ before ++ after, member.1 ≠ none := by
  simp only [List.forall_mem_append, List.forall_mem_cons, ne_eq, reduceCtorEq,
    not_false_eq_true, true_and]

theorem member?_insert_self (h : ∀ member ∈ before ++ after, member.1 ≠ some name) (v : Json) :
    member? name (before ++ (some name, v) :: after) = some v := by
  rw [member?_eq_head?, valuesAt_insert_self h]
  rfl

theorem member?_insert_ne {key : Option String} (h : key ≠ some name) (v : Json) :
    member? name (before ++ (key, v) :: after) = member? name (before ++ after) := by
  rw [member?_eq_head?, valuesAt_insert_ne h, member?_eq_head?]

theorem regular_insert {key : String} (h : ∀ member ∈ before ++ after, member.1 ≠ some key)
    (v : Json) :
    Regular names (before ++ (some key, v) :: after) ↔ Regular names (before ++ after) := by
  refine and_congr texts_insert (forall₂_congr fun name _ => ?_)
  by_cases hk : key = name
  · subst hk
    simp [valuesAt_insert_self h, valuesAt_eq_nil h]
  · rw [valuesAt_insert_ne (by simpa using hk)]

/-! ### Another value -/

/-- In a record whose keys are in order, another value under one of the names is found there,
and everything else as before. -/
theorem fields_replace {key : String} {fs : List (Option Json)} (hkey : key ∈ names)
    (h : fields names (object (before ++ (some key, v) :: after)) = some fs) :
    ∃ found : String → Option Json,
      fs = names.map (fun name => if name = key then some v else found name) ∧
      ∀ v', fields names (object (before ++ (some key, v') :: after)) =
        some (names.map fun name => if name = key then some v' else found name) := by
  obtain ⟨⟨htexts, hone⟩, rfl⟩ := fields_object_eq_some_iff.mp h
  have hbefore : valuesAt key before = [] := by
    have hlen := hone key hkey
    rw [valuesAt_append, valuesAt_cons_self, List.length_append, List.length_cons] at hlen
    exact List.eq_nil_of_length_eq_zero (by omega)
  have hfound (w : Json) (name : String) :
      member? name (before ++ (some key, w) :: after) =
        if name = key then some w else member? name (before ++ after) := by
    by_cases hn : name = key
    · subst hn
      rw [if_pos rfl, member?_eq_head?, valuesAt_append, valuesAt_cons_self, hbefore]
      rfl
    · rw [if_neg hn, member?_insert_ne (by simpa using Ne.symm hn)]
  refine ⟨(member? · (before ++ after)), List.map_congr_left fun name _ => hfound v name, ?_⟩
  intro w
  refine fields_object_eq_some_iff.mpr
    ⟨⟨texts_insert.mpr (texts_insert.mp htexts), fun name hname => ?_⟩,
      List.map_congr_left fun name _ => (hfound w name).symm⟩
  have hlen := hone name hname
  simp only [valuesAt_append, List.length_append] at hlen ⊢
  by_cases hn : key = name
  · subst hn
    rwa [valuesAt_cons_self, List.length_cons] at hlen ⊢
  · rwa [valuesAt_cons_ne (by simpa using hn)] at hlen ⊢

/-- Another item of a list is decoded in its place. -/
theorem list_replace {α : Type} {decode : Json → Option α} {before after : List Json}
    {xs : List α} (h : list decode (array (before ++ v :: after)) = some xs) :
    ∃ x, decode v = some x ∧ xs[before.length]? = some x ∧
      ∀ v' x', decode v' = some x' →
        list decode (array (before ++ v' :: after)) = some (xs.set before.length x') := by
  simp only [list, List.mapM_append, List.mapM_cons, Option.bind_eq_bind, Option.pure_def,
    Option.bind_eq_some_iff, Option.some.injEq] at h
  obtain ⟨as, has, _, ⟨x, hx, bs, hbs, rfl⟩, rfl⟩ := h
  have hlen : before.length = as.length := (mapM_eq_some_iff.mp has).length_eq
  refine ⟨x, hx, by simp [hlen], fun v' x' hx' => ?_⟩
  simp [list, has, hx', hbs, hlen]

/-! ### Another order -/

theorem valuesAt_perm (h : members.Perm members') (name : String) :
    (valuesAt name members).Perm (valuesAt name members') :=
  (h.filter _).map _

theorem head?_eq_of_perm {xs ys : List Json} (h : xs.Perm ys) (hone : xs.length ≤ 1) :
    xs.head? = ys.head? := by
  match xs, hone with
  | [], _ => rw [h.nil_eq]
  | [x], _ => rw [List.singleton_perm.mp h]

end ScanGate.Json
