import ScanGate.Json.Decode

/-! Records that are written as objects. What a decoder takes out of such a record is
what stands under the key: an absent member counts as `null`, and `null` as the
default. So every accepted record has one reading, which looks up members and never
fails. -/
namespace ScanGate.Json

variable {α : Type}

/-! ### Looking up -/

/-- The value of the member with this key, if there is one. -/
def field? (key : String) : Json → Option Json
  | object members => member? key members
  | _ => none

/-- The value under this key, `null` if there is none. -/
def get (key : String) (value : Json) : Json := (value.field? key).getD null

def items : Json → List Json
  | array items => items
  | _ => []

/-- An object, or nothing at all. -/
def IsRecord (value : Json) : Prop := value = null ∨ ∃ members, value = object members

/-! ### What decoders take -/

/-- The fields of an object are its members. -/
theorem fields_eq {value : Json} {names : List String} {fs : List (Option Json)}
    (hr : value.IsRecord) (h : value.fields names = some fs) :
    fs = names.map (field? · value) := by
  obtain rfl | ⟨members, rfl⟩ := hr
  · simp [fields] at h
  · simp only [fields, Option.ite_none_right_eq_some, Option.some.injEq] at h
    exact h.2.symm

theorem text?_eq_some {value : Json} {s : String} : value.text? = some s ↔ value = text s := by
  cases value with
  | string t => simp [text?, text]
  | _ => simp [text?, text]

/-- A field that may be missing is decoded, or is as good as `null`. -/
theorem optional_eq {decode : Json → Option α} {field : Option Json} {o : Option α}
    (hnull : decode null = none) (h : optional decode field = some o) :
    o = decode (field.getD null) := by
  unfold optional at h
  split at h
  · rw [Option.getD_none, hnull]
    exact (Option.some.inj h).symm
  · rw [Option.getD_some, hnull]
    exact (Option.some.inj h).symm
  · obtain ⟨a, ha, rfl⟩ := Option.map_eq_some_iff.mp h
    exact ha.symm

theorem orDefault_eq {decode : Json → Option α} {field : Option Json} {d x : α}
    (hnull : decode null = none) (h : orDefault d decode field = some x) :
    x = (decode (field.getD null)).getD d := by
  obtain ⟨o, ho, rfl⟩ := Option.map_eq_some_iff.mp h
  rw [optional_eq hnull ho]

theorem decode_of_required {decode : Json → Option α} {field : Option Json} {x : α}
    (h : required decode field = some x) : decode (field.getD null) = some x := by
  cases field with
  | none => cases h
  | some value => exact h

/-- What is true of `null` with the default, and of a value with all that is decoded from it, is
true of a field with a default. -/
theorem orDefault_induction {decode : Json → Option α} {field : Option Json} {d x : α}
    {motive : Json → α → Prop} (null : motive null d)
    (value : ∀ y, decode (field.getD .null) = some y → motive (field.getD .null) y)
    (h : orDefault d decode field = some x) : motive (field.getD .null) x := by
  obtain ⟨o, ho, rfl⟩ := Option.map_eq_some_iff.mp h
  unfold optional at ho
  split at ho
  · cases ho
    exact null
  · cases ho
    exact null
  · obtain ⟨a, ha, rfl⟩ := Option.map_eq_some_iff.mp ho
    exact value a ha

/-- A field with a default is decoded by a reading `r` that agrees with the decoder on
records and with the default on `null`. -/
theorem orDefault_reading {decode : Json → Option α} {field : Option Json} {d x : α}
    {r : Json → α} (hnull : r null = d)
    (hreading : ∀ y, decode (field.getD null) = some y → y = r (field.getD null))
    (h : orDefault d decode field = some x) : x = r (field.getD null) :=
  orDefault_induction (motive := fun value x => x = r value) hnull.symm hreading h

/-- A list is decoded item by item. -/
theorem mapM_reading {decode : Json → Option α} {r : Json → α} {vs : List Json} {xs : List α}
    (hreading : ∀ v ∈ vs, ∀ x, decode v = some x → x = r v)
    (h : vs.mapM decode = some xs) : xs = vs.map r := by
  induction vs generalizing xs with
  | nil =>
    cases h
    rfl
  | cons v vs ih =>
    rw [List.mapM_cons] at h
    obtain ⟨x, hx, h⟩ := Option.bind_eq_some_iff.mp h
    obtain ⟨xs', hxs, h⟩ := Option.bind_eq_some_iff.mp h
    cases h
    have hv := hreading v List.mem_cons_self x hx
    have hvs := ih (fun w hw => hreading w (List.mem_cons_of_mem v hw)) hxs
    rw [List.map_cons, ← hv, ← hvs]

theorem list_reading {decode : Json → Option α} {r : Json → α} {value : Json} {xs : List α}
    (hreading : ∀ v ∈ value.items, ∀ x, decode v = some x → x = r v)
    (h : list decode value = some xs) : xs = value.items.map r := by
  cases value with
  | array items => exact mapM_reading hreading h
  | _ => cases h

theorem orDefault_list_reading {decode : Json → Option α} {r : Json → α}
    {field : Option Json} {xs : List α}
    (hreading : ∀ v ∈ (field.getD null).items, ∀ x, decode v = some x → x = r v)
    (h : orDefault [] (list decode) field = some xs) :
    xs = (field.getD null).items.map r := by
  refine orDefault_reading (r := fun v => v.items.map r) rfl ?_ h
  intro ys hys
  exact list_reading hreading hys

end ScanGate.Json
