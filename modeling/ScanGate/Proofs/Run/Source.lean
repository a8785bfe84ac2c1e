import ScanGate.Proofs.Run.Steps
import ScanGate.Proofs.Waivers.Form

/-! What a source gives, whatever the system. A source is read to its end or not at all, and the
text behind it is read as a list of waivers as a whole: there is a waiver for each entry of the
document's list, in the same order, or there is a failure that names the source. -/
namespace ScanGate.Source

open Gate (Gives Fails gives_pure gives_lift gives_bind gives_lift_bind gives_except gives_map gives_reword
  gives_provided not_gives_throw fails_bind fails_reword gives_or_fails)

variable {σ α β : Type} {s : System (StateM σ)} {source : Source} {st st' : σ} {ws : WaiverList}

/-- Behind the source there is this text, and all of it can be read: a variable that is set, the
text of the complete body of an answer with a status of 200 to 299, or a regular file that is not
a link, not too large and valid text. -/
inductive Yields (s : System (StateM σ)) : Source → σ → String → σ → Prop
  | environment {name text : String} {st st' : σ}
      (hset : (s.lookup? name).run st = (some text, st')) :
      Yields s (.environment name) st text st'
  | address {address : String} {url : Url} {code : Nat} {body : Body} {st st' : σ}
      (hurl : Url.parse? address = some url) (hsendable : url.withoutUser.1.isSendable = true)
      (hanswer : (s.send (request url)).run st = (.answered code body true, st'))
      (hcode : 200 ≤ code ∧ code < 300) :
      Yields s (.address address) st body.text st'
  | file {path text : String} {size : Nat} {content : Content} {st st₁ st' : σ}
      (hregular : (s.inspect path).run st = (.ok (.file size), st₁)) (hsize : size ≤ Files.maxText)
      (hread : (s.read path).run st₁ = (.ok content, st'))
      (htext : Text.ofUtf8? content.data = some text) : Yields s (.file path) st text st'

/-- All the text behind the source spells a document, and the document's list is these waivers,
entry by entry. -/
def Applies (s : System (StateM σ)) (source : Source) (st : σ) (ws : WaiverList) (st' : σ) :
    Prop :=
  ∃ text, Yields s source st text st' ∧ ∃ doc, Json.Spells text doc ∧ WaiverList.Written doc ws

/-! ### Reading -/

theorem gives_checkRegular {path what : String} {size : Nat} :
    Gives (Files.checkRegular s path what) st size st' ↔
      (s.inspect path).run st = (.ok (.file size), st') := by
  unfold Files.checkRegular
  rw [gives_lift_bind]
  constructor
  · rintro ⟨r, st₁, hr, h⟩
    match r with
    | .error _ | .ok .link | .ok .directory | .ok .other => exact absurd h not_gives_throw
    | .ok (.file _) =>
      obtain ⟨rfl, rfl⟩ := gives_pure.mp h
      exact hr
  · intro h
    exact ⟨_, _, h, gives_pure.mpr ⟨rfl, rfl⟩⟩

theorem gives_readFile {path what text : String} : Gives (Files.readText s path what) st text st' ↔
    Yields s (.file path) st text st' := by
  unfold Files.readText
  simp only [gives_bind, gives_checkRegular, gives_except, Run.checkSize_eq_ok_iff, gives_lift]
  constructor
  · rintro ⟨size, st₁, hregular, _, _, ⟨hsize, rfl⟩, r, _, hread, h⟩
    cases r with
    | error => exact absurd h not_gives_throw
    | ok content =>
      cases htext : Text.ofUtf8? content.data with
      | none =>
        simp only [htext] at h
        exact absurd h not_gives_throw
      | some _ =>
        simp only [htext] at h
        obtain ⟨rfl, rfl⟩ := gives_pure.mp h
        exact .file hregular hsize hread htext
  · intro h
    cases h with
    | file hregular hsize hread htext =>
      refine ⟨_, _, hregular, (), _, ⟨hsize, rfl⟩, _, _, hread, ?_⟩
      simp only [htext]
      exact gives_pure.mpr ⟨rfl, rfl⟩

theorem gives_fetch {address text : String} : Gives (fetch s address) st text st' ↔
    Yields s (.address address) st text st' := by
  unfold fetch
  constructor
  · intro h
    cases hurl : Url.parse? address with
    | none =>
      simp only [hurl] at h
      exact absurd h not_gives_throw
    | some url =>
      simp only [hurl, gives_provided, gives_lift_bind] at h
      obtain ⟨hsendable, reply, st₁, hreply, h⟩ := h
      match reply with
      | .unreachable => exact absurd h not_gives_throw
      | .answered code body complete =>
        by_cases hcode : code < 200 ∨ 300 ≤ code
        · simp only [if_pos hcode] at h
          exact absurd h not_gives_throw
        · simp only [if_neg hcode] at h
          cases complete with
          | false => exact absurd h not_gives_throw
          | true =>
            obtain ⟨rfl, rfl⟩ := gives_pure.mp h
            exact .address hurl hsendable hreply (by omega)
  · intro h
    cases h with
    | address hurl hsendable hanswer hcode =>
      simp only [hurl, gives_provided, gives_lift_bind]
      refine ⟨hsendable, _, _, hanswer, ?_⟩
      simp only [Nat.not_lt.mpr hcode.1, Nat.not_le.mpr hcode.2, or_self, if_false, if_true]
      exact gives_pure.mpr ⟨rfl, rfl⟩

theorem gives_readText (hsource : source ≠ .absent) {found : Option String} :
    Gives (readText s source) st found st' ↔
      ∃ text, some text = found ∧ Yields s source st text st' := by
  cases source with
  | absent => exact absurd rfl hsource
  | environment name =>
    unfold readText
    rw [gives_lift_bind]
    constructor
    · rintro ⟨value, st₁, hvalue, h⟩
      cases value with
      | none => exact absurd h not_gives_throw
      | some text =>
        obtain ⟨rfl, rfl⟩ := gives_pure.mp h
        exact ⟨text, rfl, .environment hvalue⟩
    · rintro ⟨text, rfl, ⟨hset⟩⟩
      exact ⟨_, _, hset, gives_pure.mpr ⟨rfl, rfl⟩⟩
  | address address =>
    unfold readText
    simp only [gives_map, gives_fetch]
  | file path =>
    unfold readText
    simp only [gives_map, gives_readFile]

/-! ### Loading -/

/-- A source that is given has these waivers exactly when all behind it is applied. -/
theorem gives_load (hsource : source ≠ .absent) :
    Gives (load s source) st ws st' ↔ Applies s source st ws st' := by
  unfold load Applies
  simp only [gives_bind, gives_reword, gives_readText hsource,
    ← WaiverList.parse_eq_ok_iff]
  constructor
  · rintro ⟨_, st₁, ⟨text, rfl, htext⟩, h⟩
    simp only at h
    cases hparse : WaiverList.parse text with
    | error =>
      simp only [hparse] at h
      exact absurd h not_gives_throw
    | ok ws' =>
      simp only [hparse] at h
      obtain ⟨rfl, rfl⟩ := gives_pure.mp h
      exact ⟨text, htext, hparse⟩
  · rintro ⟨text, htext, hparse⟩
    refine ⟨_, _, ⟨text, rfl, htext⟩, ?_⟩
    simp only [hparse]
    exact gives_pure.mpr ⟨rfl, rfl⟩

/-- Whatever is wrong, the failure names the source. -/
theorem fails_load {failure : Failure} (h : Fails (load s source) st failure st') :
    ∃ details, failure = .source source.text details := by
  unfold load at h
  obtain h | ⟨found, st₁, -, h⟩ := fails_bind.mp h
  · obtain ⟨cause, rfl⟩ := fails_reword h
    exact ⟨_, rfl⟩
  · cases found with
    | none => cases h
    | some text =>
      simp only at h
      cases hparse : WaiverList.parse text with
      | ok ws =>
        simp only [hparse] at h
        cases h
      | error cause =>
        simp only [hparse] at h
        cases h
        exact ⟨_, rfl⟩

theorem load_fails (hsource : source ≠ .absent)
    (h : ¬ ∃ ws st', Applies s source st ws st') :
    ∃ details st', Fails (load s source) st (.source source.text details) st' := by
  obtain ⟨ws, st', hgives⟩ | ⟨failure, st', hfails⟩ := gives_or_fails (load s source) st
  · exact absurd ⟨ws, st', (gives_load hsource).mp hgives⟩ h
  · obtain ⟨details, rfl⟩ := fails_load hfails
    exact ⟨details, st', hfails⟩

end ScanGate.Source
