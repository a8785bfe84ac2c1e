import ScanGate.Proofs.Json.Edits
import ScanGate.Report

/-! The schema of a report: which record stands where, by which names it knows its fields,
and what is decoded there. Two values are the same for a place of the schema if they are
decoded alike. A record is the same if its fields are, and a list if its items are, so a
change that does not matter where it is made does not matter at all. -/
namespace ScanGate

open Json (At Key Permuted Regular valuesAt)

/-- A place of the schema. -/
inductive Shape where
  | document | results | summary | verdict | component | counts | place | entry | details
  | list (item : Shape)
  | text | count | score | mark | anything

namespace Shape

/-- What is decoded at the place. -/
@[reducible]
def Value : Shape → Type
  | document | results => Report
  | summary | verdict => String × String
  | component => Component
  | counts => UInt32 × UInt32
  | place => Place
  | entry => Vulnerability
  | details => String × String × Binary64
  | list item => List item.Value
  | text => String
  | count => UInt32
  | score => Binary64
  | mark => Bool
  | anything => Unit

def decode : (s : Shape) → Json → Option s.Value
  | document => Report.ofJson?
  | results => Report.results?
  | summary => Report.summary?
  | verdict => Report.verdict?
  | component => Report.component?
  | counts => Report.counts?
  | place => Report.place?
  | entry => Report.vulnerability?
  | details => Report.details?
  | list item => Json.list item.decode
  | text => Json.text?
  | count => Json.word?
  | score => Json.real?
  | mark => Report.exactness?
  | anything => fun _ => some ()

/-- The fields that a record knows, and what stands there. -/
def fields : Shape → List (String × Shape)
  | document => [("results", results)]
  | results => [("status", text), ("summary", summary), ("components", list component)]
  | summary => [("verdict", verdict)]
  | verdict => [("short", text), ("detailed", text)]
  | component => [("lib", text), ("version", text), ("vuln-count", counts),
      ("latest_version", text), ("latest-version", text), ("extended-objects", list place),
      ("vulns", list entry)]
  | counts => [("total", count), ("historical", count)]
  | place => [("fullpath", list text)]
  | entry => [("vuln", details), ("exact", mark), ("triage", anything)]
  | details => [("cve", text), ("summary", text), ("cvss", score)]
  | _ => []

def names (s : Shape) : List String := s.fields.map (·.1)

/-- A field that may be missing, and then counts as `null`. -/
def Nullable (name : String) : Prop := name ∉ ["results", "status", "triage"]

instance : DecidablePred Nullable := fun name => inferInstanceAs (Decidable (name ∉ _))

/-- The place below, by the name of a field or anywhere in a list. -/
def child : Shape → Key → Option Shape
  | list item, .item _ => some item
  | s, .member (some name) => s.fields.lookup name
  | _, _ => none

/-- The place at the end of the path. -/
def follow (s : Shape) : List Key → Option Shape
  | [] => some s
  | key :: path => (s.child key).bind (follow · path)

/-! ### Values that are the same for a place -/

/-- Neither value is `null`, and they are decoded alike. -/
structure Same (s : Shape) (v v' : Json) : Prop where
  left : v ≠ .null
  right : v' ≠ .null
  decode_eq : s.decode v = s.decode v'

/-- Fields under the name that are decoded alike. -/
inductive SameField (name : String) (s : Shape) : Option Json → Option Json → Prop
  | rfl (field : Option Json) : SameField name s field field
  | value {v v' : Json} (h : s.Same v v') : SameField name s (some v) (some v')
  | null (h : Nullable name) : SameField name s none (some .null)

inductive SameFields : List (String × Shape) → List (Option Json) → List (Option Json) → Prop
  | nil : SameFields [] [] []
  | cons {name : String} {s : Shape} {known : List (String × Shape)} {field field' : Option Json}
      {fs fs' : List (Option Json)} (head : SameField name s field field')
      (tail : SameFields known fs fs') :
      SameFields ((name, s) :: known) (field :: fs) (field' :: fs')

/-- Both values have the fields of the record, the same ones, or neither has. -/
inductive SameRecord (s : Shape) (v v' : Json) : Prop
  | neither (h : v.fields s.names = none) (h' : v'.fields s.names = none)
  | both {fs fs' : List (Option Json)} (h : v.fields s.names = some fs)
      (h' : v'.fields s.names = some fs') (hall : SameFields s.fields fs fs')

variable {α : Type} {name : String} {s t : Shape} {v v' : Json} {field field' : Option Json}
  {fs fs' : List (Option Json)} {known : List (String × Shape)} {path : List Key}
  {members members' before after : List (Option String × Json)}

namespace SameField

theorem optional (h : SameField name s field field') :
    Json.optional s.decode field = Json.optional s.decode field' := by
  cases h with
  | rfl => rfl
  | value h => rw [Json.optional_of_ne_null h.left, Json.optional_of_ne_null h.right, h.decode_eq]
  | null => rfl

theorem orDefault (h : SameField name s field field') (d : s.Value) :
    Json.orDefault d s.decode field = Json.orDefault d s.decode field' := by
  rw [Json.orDefault, Json.orDefault, h.optional]

theorem required (h : SameField name s field field') (hn : ¬ Nullable name) :
    Json.required s.decode field = Json.required s.decode field' := by
  cases h with
  | rfl => rfl
  | value h => exact h.decode_eq
  | null h => exact absurd h hn

theorem isSome (h : SameField name s field field') (hn : ¬ Nullable name) :
    field.isSome = field'.isSome := by
  cases h with
  | rfl => rfl
  | value h => rfl
  | null h => exact absurd h hn

end SameField

theorem sameFields_map {f g : String → Option Json}
    (h : ∀ field ∈ known, SameField field.1 field.2 (f field.1) (g field.1)) :
    SameFields known ((known.map (·.1)).map f) ((known.map (·.1)).map g) := by
  induction known with
  | nil => exact .nil
  | cons field known ih =>
    exact .cons (h field List.mem_cons_self) (ih fun x hx => h x (List.mem_cons_of_mem _ hx))

theorem SameRecord.bind {g : List (Option Json) → Option α} (h : SameRecord s v v')
    (hg : ∀ fs fs', SameFields s.fields fs fs' → g fs = g fs') :
    (v.fields s.names).bind g = (v'.fields s.names).bind g := by
  cases h with
  | neither h h' => rw [h, h']
  | both h h' hall => rw [h, h', Option.bind_some, Option.bind_some, hg _ _ hall]

/-- A record is decoded from its fields. -/
theorem SameRecord.decode_eq (hs : s.fields ≠ []) (h : SameRecord s v v') :
    s.decode v = s.decode v' := by
  cases s with
  | document =>
    refine h.bind fun fs fs' hall => ?_
    obtain _ | ⟨results, ⟨⟩⟩ := hall
    exact results.required (by decide)
  | results =>
    refine h.bind fun fs fs' hall => ?_
    obtain _ | ⟨status, _ | ⟨summary, _ | ⟨components, ⟨⟩⟩⟩⟩ := hall
    have hstatus := status.required (by decide)
    have hsummary := summary.orDefault ("", "")
    have hcomponents := components.orDefault []
    simp only [decode] at hstatus hsummary hcomponents
    simp only [hstatus, hsummary, hcomponents]
  | summary =>
    refine h.bind fun fs fs' hall => ?_
    obtain _ | ⟨verdict, ⟨⟩⟩ := hall
    exact verdict.orDefault _
  | verdict =>
    refine h.bind fun fs fs' hall => ?_
    obtain _ | ⟨short, _ | ⟨detailed, ⟨⟩⟩⟩ := hall
    have hshort := short.orDefault ""
    have hdetailed := detailed.orDefault ""
    simp only [decode] at hshort hdetailed
    simp only [hshort, hdetailed]
  | component =>
    refine h.bind fun fs fs' hall => ?_
    obtain _ | ⟨lib, _ | ⟨version, _ | ⟨counts, _ | ⟨latest, _ | ⟨dashed, _ | ⟨places,
      _ | ⟨vulns, ⟨⟩⟩⟩⟩⟩⟩⟩⟩ := hall
    have hlib := lib.orDefault ""
    have hversion := version.optional
    have hcounts := counts.orDefault (0, 0)
    have hlatest := latest.optional
    have hdashed := dashed.optional
    have hplaces := places.orDefault []
    have hvulns := vulns.orDefault []
    simp only [decode] at hlib hversion hcounts hlatest hdashed hplaces hvulns
    simp only [hlib, hversion, hcounts, hlatest, hdashed, hplaces, hvulns]
  | counts =>
    refine h.bind fun fs fs' hall => ?_
    obtain _ | ⟨total, _ | ⟨historical, ⟨⟩⟩⟩ := hall
    have htotal := total.orDefault 0
    have hhistorical := historical.orDefault 0
    simp only [decode] at htotal hhistorical
    simp only [htotal, hhistorical]
  | place =>
    refine h.bind fun fs fs' hall => ?_
    obtain _ | ⟨fullpath, ⟨⟩⟩ := hall
    exact fullpath.orDefault _
  | entry =>
    refine h.bind fun fs fs' hall => ?_
    obtain _ | ⟨vuln, _ | ⟨exact, _ | ⟨triage, ⟨⟩⟩⟩⟩ := hall
    have hvuln := vuln.orDefault ("", "", .zero)
    have htriage := triage.isSome (by decide)
    simp only [decode] at hvuln
    -- A mark that is `null` is decoded, and gives what a missing one stands for.
    have hnull : Report.exactness? .null = some false := rfl
    cases exact with
    | rfl field => simp only [hvuln, htriage]
    | value h =>
      have hmark := h.decode_eq
      simp only [decode] at hmark
      simp only [hvuln, hmark, htriage]
    | null => simp only [hvuln, hnull, htriage]
  | details =>
    refine h.bind fun fs fs' hall => ?_
    obtain _ | ⟨cve, _ | ⟨summary, _ | ⟨cvss, ⟨⟩⟩⟩⟩ := hall
    have hcve := cve.orDefault ""
    have hsummary := summary.orDefault ""
    have hcvss := cvss.orDefault .zero
    simp only [decode] at hcve hsummary hcvss
    simp only [hcve, hsummary, hcvss]
  | _ => exact absurd rfl hs

/-! ### Objects and arrays -/

/-- Objects are the same record if under each name the values are, as far as they matter:
where a name is repeated, it has to be so in both. -/
theorem SameRecord.object
    (hkeys : (∀ member ∈ members, member.1 ≠ none) ↔ ∀ member ∈ members', member.1 ≠ none)
    (hone : ∀ field ∈ s.fields,
      (valuesAt field.1 members).length ≤ 1 ↔ (valuesAt field.1 members').length ≤ 1)
    (hsame : ∀ field ∈ s.fields, (valuesAt field.1 members).length ≤ 1 →
      SameField field.1 field.2 (valuesAt field.1 members).head?
        (valuesAt field.1 members').head?) :
    SameRecord s (.object members) (.object members') := by
  have hregular : Regular s.names members ↔ Regular s.names members' := by
    refine and_congr hkeys ?_
    simp only [names, List.forall_mem_map]
    exact forall₂_congr hone
  by_cases hr : Regular s.names members
  · refine .both ((Json.fields_object _ _).mpr hr) ((Json.fields_object _ _).mpr (hregular.mp hr))
      (sameFields_map fun field hfield => ?_)
    rw [Json.member?_eq_head?, Json.member?_eq_head?]
    exact hsame field hfield (hr.2 _ (List.mem_map_of_mem hfield))
  · exact .neither (Json.fields_object_eq_none hr)
      (Json.fields_object_eq_none (hregular.not.mp hr))

theorem sameFields_items {items items' : List Json}
    (h : List.Forall₂ (fun v v' => ∀ name t, SameField name t (some v) (some v')) items items')
    (hlen : items.length ≤ known.length) :
    SameFields known (items.map some ++ List.replicate (known.length - items.length) none)
      (items'.map some ++ List.replicate (known.length - items'.length) none) := by
  induction known generalizing items items' with
  | nil =>
    obtain rfl := List.eq_nil_of_length_eq_zero (Nat.le_zero.mp hlen)
    cases h
    exact .nil
  | cons field known ih =>
    cases h with
    | nil => exact .cons (.rfl none) (ih .nil (Nat.zero_le _))
    | cons hv hs =>
      simp only [List.length_cons, Nat.add_le_add_iff_right] at hlen
      simp only [List.length_cons, Nat.add_sub_add_right]
      exact .cons (hv _ _) (ih hs hlen)

theorem SameRecord.array {items items' : List Json}
    (h : List.Forall₂ (fun v v' => ∀ name t, SameField name t (some v) (some v')) items items') :
    SameRecord s (.array items) (.array items') := by
  have hnames : s.names.length = s.fields.length := List.length_map _
  by_cases hlen : items.length ≤ s.names.length
  · have hlen' : items'.length ≤ s.names.length := h.length_eq ▸ hlen
    refine .both (if_pos hlen) (if_pos hlen') ?_
    rw [hnames] at hlen ⊢
    exact sameFields_items h hlen
  · have hlen' : ¬ items'.length ≤ s.names.length := h.length_eq ▸ hlen
    exact .neither (if_neg hlen) (if_neg hlen')

theorem Same.array {before after : List Json} (h : t.Same v v') :
    (list t).Same (.array (before ++ v :: after)) (.array (before ++ v' :: after)) where
  left := Json.noConfusion
  right := Json.noConfusion
  decode_eq := by
    simp only [decode, Json.list, List.mapM_append, List.mapM_cons, h.decode_eq]

theorem lookup_fields (s : Shape) :
    ∀ field ∈ s.fields, s.fields.lookup field.1 = some field.2 := by
  cases s <;> simp [fields, List.lookup_cons]

/-- A record is the same if the value under one key is, for the field of that name. -/
theorem SameRecord.member {key : Option String}
    (h : ∀ field ∈ s.fields, key = some field.1 → field.2.Same v v') :
    SameRecord s (.object (before ++ (key, v) :: after))
      (.object (before ++ (key, v') :: after)) := by
  have hother {name : String} (hk : key ≠ some name) (w : Json) :
      valuesAt name (before ++ (key, w) :: after) = valuesAt name (before ++ after) :=
    Json.valuesAt_insert_ne hk w
  refine .object ?_ ?_ ?_
  · simp only [List.forall_mem_append, List.forall_mem_cons]
  · intro field _
    by_cases hk : key = some field.1
    · simp only [hk, Json.valuesAt_append, Json.valuesAt_cons_self, List.length_append,
        List.length_cons]
    · rw [hother hk, hother hk]
  · intro field hfield hone
    by_cases hk : key = some field.1
    · have hsame := h field hfield hk
      simp only [hk, Json.valuesAt_append, Json.valuesAt_cons_self] at hone ⊢
      -- Nothing comes before the value, since the name is not repeated.
      have hnone : valuesAt field.1 before = [] := by
        rw [List.length_append, List.length_cons] at hone
        exact List.eq_nil_of_length_eq_zero (by omega)
      rw [hnone]
      exact .value hsame
    · rw [hother hk, hother hk]
      exact .rfl _

theorem Same.object (ht : s.fields.lookup name = some t) (h : t.Same v v') :
    s.Same (.object (before ++ (some name, v) :: after))
      (.object (before ++ (some name, v') :: after)) where
  left := Json.noConfusion
  right := Json.noConfusion
  decode_eq := by
    have hs : s.fields ≠ [] := by
      intro hnil
      rw [hnil] at ht
      cases ht
    refine SameRecord.decode_eq hs (.member fun field hfield hk => ?_)
    cases hk
    obtain rfl := Option.some.inj ((lookup_fields s field hfield).symm.trans ht)
    exact h

/-- What is the same at the end of a path is the same at its start. -/
theorem Same.at {r : Json → Json → Prop} (h : At r path v v') (ht : s.follow path = some t)
    (hr : ∀ w w', r w w' → t.Same w w') : s.Same v v' := by
  induction h generalizing s with
  | here h =>
    cases ht
    exact hr _ _ h
  | @member _ key _ _ _ _ _ ih =>
    obtain ⟨u, hu, hrest⟩ := Option.bind_eq_some_iff.mp ht
    cases key with
    | none => cases s <;> cases hu
    | some name =>
      have hlookup : s.fields.lookup name = some u := by
        cases s <;> exact hu
      exact .object hlookup (ih hrest)
  | item _ ih =>
    obtain ⟨u, hu, hrest⟩ := Option.bind_eq_some_iff.mp ht
    cases s with
    | list item =>
      cases hu
      exact .array (ih hrest)
    | _ => cases hu

/-! ### Reordered members -/

theorem exactness?_object (members : List (Option String × Json)) :
    Report.exactness? (.object members) =
      (Json.whole? Report.exactDepth (.object members)).map fun _ => false := by
  simp only [Report.exactness?, Json.whole?]
  split <;> rfl

theorem exactness?_array (items : List Json) :
    Report.exactness? (.array items) =
      (Json.whole? Report.exactDepth (.array items)).map fun _ => false := by
  simp only [Report.exactness?, Json.whole?]
  split <;> rfl

theorem whole?_map_of_reordered (h : At Permuted path v v') (around : Nat) :
    ((v.whole? around).map fun _ => false) = (v'.whole? around).map fun _ => false := by
  simp only [Json.whole?, h.depth_eq, h.isWhole_eq]
  split <;> rfl

/-- Where no record is expected, an object is none or a mark. -/
theorem decode_object_of_reordered (hs : s.fields = [])
    (h : At Permuted path (.object members) (.object members')) :
    s.decode (.object members) = s.decode (.object members') := by
  cases s with
  | mark =>
    simp only [decode, exactness?_object]
    exact whole?_map_of_reordered h _
  | list | text | count | score | anything => rfl
  | _ => cases hs

theorem Same.array_of_reordered {before after : List Json} (h : At Permuted path v v')
    (ih : ∀ t : Shape, t.Same v v') (s : Shape) :
    s.Same (.array (before ++ v :: after)) (.array (before ++ v' :: after)) := by
  refine ⟨Json.noConfusion, Json.noConfusion, ?_⟩
  by_cases hs : s.fields = []
  · cases s with
    | list item => exact (Same.array (ih item)).decode_eq
    | mark =>
      simp only [decode, exactness?_array]
      exact whole?_map_of_reordered (.item h) _
    | text | count | score | anything => rfl
    | _ => cases hs
  · refine SameRecord.decode_eq hs (.array (List.rel_append ?_ (.cons ?_ ?_)))
    · exact List.forall₂_same.mpr fun _ _ _ _ => .rfl _
    · exact fun _ t => .value (ih t)
    · exact List.forall₂_same.mpr fun _ _ _ _ => .rfl _

/-- The order of members matters nowhere, not even in records written as arrays or where no
record is expected. -/
theorem Same.of_reordered (h : At Permuted path v v') (s : Shape) : s.Same v v' := by
  induction h generalizing s with
  | here h =>
    obtain ⟨h⟩ := h
    refine ⟨Json.noConfusion, Json.noConfusion, ?_⟩
    by_cases hs : s.fields = []
    · exact decode_object_of_reordered hs (.here (.object h))
    · have hperm (field : String × Shape) := Json.valuesAt_perm h field.1
      refine SameRecord.decode_eq hs (.object ?_ ?_ ?_)
      · simp only [h.mem_iff]
      · intro field _
        rw [(hperm field).length_eq]
      · intro field _ hone
        rw [Json.head?_eq_of_perm (hperm field) hone]
        exact .rfl _
  | member h ih =>
    refine ⟨Json.noConfusion, Json.noConfusion, ?_⟩
    by_cases hs : s.fields = []
    · exact decode_object_of_reordered hs (.member h)
    · exact SameRecord.decode_eq hs (.member fun field _ _ => ih field.2)
  | item h ih => exact .array_of_reordered h ih s

end Shape

end ScanGate
