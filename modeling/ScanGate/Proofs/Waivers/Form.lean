import ScanGate.Proofs.Json.Fields
import ScanGate.Proofs.Json.Records
import ScanGate.Proofs.Json.RoundTrip
import ScanGate.Waiver

/-! The form of a list of waivers. As documented, a list is an object with the list under
its one key, and every waiver is an object with at most one text or `null` for each of its
four fields. The reader takes more than that: a record may also be an array of its fields in
order, and then a list needs no key at all. So a text is read if and only if it spells a
document of the wider form, and the documented form is the wider one without such arrays. -/
namespace ScanGate

open Json (valuesAt)

/-- What may stand where a field is expected: nothing, `null` or a text. -/
inductive IsField : List Json → Option String → Prop
  | absent : IsField [] none
  | null : IsField [.null] none
  | text (s : String) : IsField [.text s] (some s)

namespace Waiver

/-- A waiver as it is documented. Other members may be there; what is under them does not
matter. -/
inductive Documented : Json → Waiver → Prop
  | object {members : List (Option String × Json)} {w : Waiver}
      (keys : ∀ member ∈ members, member.1 ≠ none)
      (cve : IsField (valuesAt "cve" members) w.cve)
      (library : IsField (valuesAt "lib" members) w.library)
      (version : IsField (valuesAt "vers" members) w.version)
      (fingerprint : IsField (valuesAt "hash" members) w.fingerprint) :
      Documented (.object members) w

/-- A waiver as it is read: documented, or an array of up to four fields. -/
inductive Written : Json → Waiver → Prop
  | documented {value : Json} {w : Waiver} (h : Documented value w) : Written value w
  | array {items : List Json} {w : Waiver} (length : items.length ≤ 4)
      (cve : IsField items[0]?.toList w.cve) (library : IsField items[1]?.toList w.library)
      (version : IsField items[2]?.toList w.version)
      (fingerprint : IsField items[3]?.toList w.fingerprint) : Written (.array items) w

end Waiver

namespace WaiverList

/-- The one list of an object. -/
def Holds (members : List (Option String × Json)) (items : List Json) : Prop :=
  (∀ member ∈ members, member.1 ≠ none) ∧ valuesAt "exceptions" members = [.array items]

/-- A list as it is documented. -/
inductive Documented : Json → WaiverList → Prop
  | object {members : List (Option String × Json)} {items : List Json} {ws : WaiverList}
      (holds : Holds members items) (entries : List.Forall₂ Waiver.Documented items ws) :
      Documented (.object members) ws

/-- A list as it is read: under its key, or alone in an array. -/
inductive Written : Json → WaiverList → Prop
  | object {members : List (Option String × Json)} {items : List Json} {ws : WaiverList}
      (holds : Holds members items) (entries : List.Forall₂ Waiver.Written items ws) :
      Written (.object members) ws
  | array {items : List Json} {ws : WaiverList}
      (entries : List.Forall₂ Waiver.Written items ws) : Written (.array [.array items]) ws

/-- A record is written as an array: the list itself, or one of its waivers. -/
inductive HasArrayRecord : Json → Prop
  | list (items : List Json) : HasArrayRecord (.array items)
  | waiver {members : List (Option String × Json)} {items fields : List Json}
      (holds : Holds members items) (h : .array fields ∈ items) : HasArrayRecord (.object members)

end WaiverList

/-! ### Fields -/

theorem isField_toList_iff {field : Option Json} {s : Option String} :
    IsField field.toList s ↔ Json.optional Json.text? field = some s := by
  constructor
  · intro h
    cases field with
    | none => cases h; rfl
    | some value => cases h <;> rfl
  · intro h
    unfold Json.optional at h
    split at h
    · cases h; exact .absent
    · cases h; exact .null
    · next value _ =>
      obtain ⟨s, hs, rfl⟩ := Option.map_eq_some_iff.mp h
      obtain rfl := Json.text?_eq_some.mp hs
      exact .text s

theorem isField_iff {values : List Json} {s : Option String} :
    IsField values s ↔ values.length ≤ 1 ∧ Json.optional Json.text? values.head? = some s := by
  rw [← isField_toList_iff]
  match values with
  | [] => simp
  | [value] => simp
  | _ :: _ :: _ => exact ⟨fun h => (nomatch h), fun h => absurd h.1 (by simp)⟩

/-! ### Waivers -/

namespace Waiver

/-- The names of the fields, in the order of an array. -/
def names : List String := ["cve", "lib", "vers", "hash"]

theorem ofJson?_eq_some_iff_fields {value : Json} {w : Waiver} : ofJson? value = some w ↔
    ∃ cve library version fingerprint,
      value.fields names = some [cve, library, version, fingerprint] ∧
      Json.optional Json.text? cve = some w.cve ∧
      Json.optional Json.text? library = some w.library ∧
      Json.optional Json.text? version = some w.version ∧
      Json.optional Json.text? fingerprint = some w.fingerprint := by
  simp only [ofJson?, Option.bind_eq_bind, Option.bind_eq_some_iff]
  constructor
  · rintro ⟨fs, hfs, h⟩
    split at h
    · next cve library version fingerprint =>
      simp only [Option.bind_eq_some_iff, Option.pure_def, Option.some.injEq] at h
      obtain ⟨c, hc, l, hl, v, hv, f, hf, rfl⟩ := h
      exact ⟨_, _, _, _, hfs, hc, hl, hv, hf⟩
    · cases h
  · rintro ⟨cve, library, version, fingerprint, hfs, hc, hl, hv, hf⟩
    refine ⟨_, hfs, ?_⟩
    simp only [hc, hl, hv, hf, Option.bind_some]
    rfl

theorem ofJson?_object_iff {members : List (Option String × Json)} {w : Waiver} :
    ofJson? (.object members) = some w ↔ Documented (.object members) w := by
  rw [ofJson?_eq_some_iff_fields]
  simp only [Json.fields_object_eq_some_iff]
  constructor
  · rintro ⟨cve, library, version, fingerprint, ⟨⟨hkeys, hnames⟩, hfs⟩, hc, hl, hv, hf⟩
    simp only [names, List.map_cons, List.map_nil, List.cons.injEq, and_true] at hfs
    obtain ⟨rfl, rfl, rfl, rfl⟩ := hfs
    simp only [Json.member?_eq_head?] at hc hl hv hf
    simp only [names, List.forall_mem_cons] at hnames
    exact .object hkeys (isField_iff.mpr ⟨hnames.1, hc⟩) (isField_iff.mpr ⟨hnames.2.1, hl⟩)
      (isField_iff.mpr ⟨hnames.2.2.1, hv⟩) (isField_iff.mpr ⟨hnames.2.2.2.1, hf⟩)
  · rintro ⟨hkeys, hc, hl, hv, hf⟩
    rw [isField_iff, ← Json.member?_eq_head?] at hc hl hv hf
    refine ⟨_, _, _, _, ⟨⟨hkeys, ?_⟩, rfl⟩, hc.2, hl.2, hv.2, hf.2⟩
    simp only [names, List.forall_mem_cons]
    exact ⟨hc.1, hl.1, hv.1, hf.1, fun _ h => absurd h List.not_mem_nil⟩

theorem ofJson?_array_iff {items : List Json} {w : Waiver} :
    ofJson? (.array items) = some w ↔ Written (.array items) w := by
  have hfields : items.length ≤ 4 →
      Json.fields names (.array items) = some [items[0]?, items[1]?, items[2]?, items[3]?] := by
    match items with
    | [] | [_] | [_, _] | [_, _, _] | [_, _, _, _] => exact fun _ => rfl
    | _ :: _ :: _ :: _ :: _ :: _ => exact fun h => absurd h (by simp)
  rw [ofJson?_eq_some_iff_fields]
  constructor
  · rintro ⟨cve, library, version, fingerprint, hfs, hc, hl, hv, hf⟩
    have hlength : items.length ≤ 4 := by
      simp only [Json.fields, Option.ite_none_right_eq_some] at hfs
      exact hfs.1
    rw [hfields hlength] at hfs
    cases hfs
    exact .array hlength (isField_toList_iff.mpr hc) (isField_toList_iff.mpr hl)
      (isField_toList_iff.mpr hv) (isField_toList_iff.mpr hf)
  · rintro (⟨⟨⟩⟩ | ⟨hlength, hc, hl, hv, hf⟩)
    exact ⟨_, _, _, _, hfields hlength, isField_toList_iff.mp hc, isField_toList_iff.mp hl,
      isField_toList_iff.mp hv, isField_toList_iff.mp hf⟩

/-- A value is read as a waiver exactly when it is written as one. -/
theorem ofJson?_eq_some_iff {value : Json} {w : Waiver} :
    ofJson? value = some w ↔ Written value w := by
  cases value with
  | object members =>
    rw [ofJson?_object_iff]
    exact ⟨.documented, fun | .documented h => h⟩
  | array items => exact ofJson?_array_iff
  | _ =>
    refine ⟨fun h => ?_, fun | .documented h => nomatch h⟩
    cases h

theorem documented_iff {value : Json} {w : Waiver} :
    Documented value w ↔ (∀ fields, value ≠ .array fields) ∧ Written value w := by
  constructor
  · intro h
    refine ⟨?_, .documented h⟩
    rintro fields rfl
    cases h
  · rintro ⟨hvalue, h⟩
    cases h with
    | documented h => exact h
    | array => exact absurd rfl (hvalue _)

theorem forall₂_documented_iff {items : List Json} {ws : List Waiver} :
    List.Forall₂ Documented items ws ↔
      (∀ value ∈ items, ∀ fields, value ≠ .array fields) ∧ List.Forall₂ Written items ws := by
  rw [← List.forall₂_and_left]
  exact ⟨fun h => h.imp fun _ _ => documented_iff.mp, fun h => h.imp fun _ _ => documented_iff.mpr⟩

end Waiver

/-! ### Lists -/

namespace WaiverList

theorem Holds.unique {members : List (Option String × Json)} {items items' : List Json}
    (h : Holds members items) (h' : Holds members items') : items = items' := by
  have hvalues := h.2.symm.trans h'.2
  cases hvalues
  rfl

theorem ofJson?_eq_some_iff {doc : Json} {ws : WaiverList} :
    ofJson? doc = some ws ↔ Written doc ws := by
  have hlist {value : Json} : Json.list Waiver.ofJson? value = some ws ↔
      ∃ items, value = .array items ∧ List.Forall₂ Waiver.Written items ws := by
    simp only [Json.list_eq_some_iff, Waiver.ofJson?_eq_some_iff]
  cases doc with
  | object members =>
    simp only [ofJson?, Option.bind_eq_bind, Option.bind_eq_some_iff,
      Json.fields_object_eq_some_iff]
    constructor
    · rintro ⟨fs, ⟨⟨hkeys, hnames⟩, rfl⟩, h⟩
      have hone := hnames "exceptions" List.mem_cons_self
      simp only [List.map_cons, List.map_nil, Json.member?_eq_head?] at h
      rcases hv : valuesAt "exceptions" members with _ | ⟨value, _ | ⟨other, rest⟩⟩
      · rw [hv] at h
        cases h
      · rw [hv] at h
        obtain ⟨items, rfl, hitems⟩ := hlist.mp h
        exact .object ⟨hkeys, hv⟩ hitems
      · rw [hv] at hone
        exact absurd hone (by simp)
    · rintro ⟨⟨hkeys, hv⟩, hitems⟩
      refine ⟨_, ⟨⟨hkeys, ?_⟩, rfl⟩, ?_⟩
      · intro name hname
        obtain rfl := List.mem_singleton.mp hname
        rw [hv]
        exact Nat.le_refl 1
      · simp only [List.map_cons, List.map_nil, Json.member?_eq_head?, hv]
        exact hlist.mpr ⟨_, rfl, hitems⟩
  | array values =>
    rcases values with _ | ⟨value, _ | ⟨other, rest⟩⟩
    · constructor <;> (intro h; cases h)
    · have h : ofJson? (.array [value]) = Json.list Waiver.ofJson? value := rfl
      rw [h, hlist]
      constructor
      · rintro ⟨items, rfl, hitems⟩
        exact .array hitems
      · intro h
        cases h with
        | array hitems => exact ⟨_, rfl, hitems⟩
    · constructor <;> (intro h; cases h)
  | _ => constructor <;> (intro h; cases h)

theorem documented_iff {doc : Json} {ws : WaiverList} :
    Documented doc ws ↔ Written doc ws ∧ ¬ HasArrayRecord doc := by
  constructor
  · rintro ⟨hholds, hentries⟩
    rw [Waiver.forall₂_documented_iff] at hentries
    refine ⟨.object hholds hentries.2, ?_⟩
    rintro (_ | ⟨hholds', hmem⟩)
    obtain rfl := hholds.unique hholds'
    exact hentries.1 _ hmem _ rfl
  · rintro ⟨hwritten, hrecords⟩
    cases hwritten with
    | array => exact absurd (.list _) hrecords
    | object hholds hentries =>
      refine .object hholds (Waiver.forall₂_documented_iff.mpr ⟨?_, hentries⟩)
      rintro _ hmem fields rfl
      exact hrecords (.waiver hholds hmem)

theorem parse_eq_ok_iff {text : String} {ws : WaiverList} :
    parse text = .ok ws ↔ ∃ doc, Json.Spells text doc ∧ Written doc ws := by
  have hparse : parse text = .ok ws ↔ ofText? text = some ws := by
    unfold parse
    cases ofText? text <;> simp
  simp only [hparse, ofText?, Option.bind_eq_some_iff, Json.read?_eq_some_iff,
    ofJson?_eq_some_iff]

/-- A text that is not read is an error, always the same. -/
theorem parse_eq_error_iff {text : String} : parse text = .error .malformedWaivers ↔
    ¬ ∃ doc ws, Json.Spells text doc ∧ Written doc ws := by
  constructor
  · rintro h ⟨doc, ws, hdoc, hws⟩
    rw [parse_eq_ok_iff.mpr ⟨doc, hdoc, hws⟩] at h
    cases h
  · intro h
    cases hp : parse text with
    | ok ws =>
      obtain ⟨doc, hdoc, hws⟩ := parse_eq_ok_iff.mp hp
      exact absurd ⟨doc, ws, hdoc, hws⟩ h
    | error failure =>
      unfold parse at hp
      split at hp
      · cases hp
      · exact hp.symm

/-- A text is read as a list of waivers exactly when it spells a document of the form, and
every other text is an error. The text is read as documented unless it spells a document that
is read and in which a record is an array. -/
theorem parse_form (text : String) :
    (∀ ws, parse text = .ok ws ↔ ∃ doc, Json.Spells text doc ∧ Written doc ws) ∧
    (parse text = .error .malformedWaivers ↔ ¬ ∃ doc ws, Json.Spells text doc ∧ Written doc ws) ∧
    ((∀ ws, parse text = .ok ws ↔ ∃ doc, Json.Spells text doc ∧ Documented doc ws) ↔
      ¬ ∃ doc ws, Json.Spells text doc ∧ Written doc ws ∧ HasArrayRecord doc) := by
  refine ⟨fun ws => parse_eq_ok_iff, parse_eq_error_iff, ?_, ?_⟩
  · rintro hdocumented ⟨doc, ws, hdoc, hws, harray⟩
    obtain ⟨doc', hdoc', hws'⟩ := (hdocumented ws).mp (parse_eq_ok_iff.mpr ⟨doc, hdoc, hws⟩)
    obtain rfl := hdoc.unique hdoc'
    exact (documented_iff.mp hws').2 harray
  · intro hnone ws
    rw [parse_eq_ok_iff]
    constructor
    · rintro ⟨doc, hdoc, hws⟩
      exact ⟨doc, hdoc, documented_iff.mpr
        ⟨hws, fun harray => hnone ⟨doc, ws, hdoc, hws, harray⟩⟩⟩
    · rintro ⟨doc, hdoc, hws⟩
      exact ⟨doc, hdoc, (documented_iff.mp hws).1⟩

/-- An array in an array is read as a list, though it has no key and is no object. -/
theorem array_read_as_list :
    parse "[[]]" = .ok [] ∧ ¬ ∃ doc ws, Json.Spells "[[]]" doc ∧ Documented doc ws := by
  have hspells : Json.Spells "[[]]" (.array [.array []]) :=
    Json.spells_compact (.array [.array []]) ⟨trivial, trivial⟩
  refine ⟨parse_eq_ok_iff.mpr ⟨_, hspells, .array .nil⟩, ?_⟩
  rintro ⟨doc, ws, hdoc, hws⟩
  obtain rfl := hdoc.unique hspells
  cases hws

end WaiverList

end ScanGate
