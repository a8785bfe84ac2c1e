import ScanGate.CommandLine
import ScanGate.Proofs.CommandLine.Reading

/-! Arguments without the credentials. The options for credentials can be told from the others
by their names alone. Arguments that are read can be read without them, and what is given is
then the same, less the credentials. -/
namespace ScanGate.CommandLine

/-- Whether an option is for credentials. -/
def isSecret (key : Key) : Bool := [Key.username, .password, .token].contains key

/-- Whether a long option of this name is for credentials. -/
def isCredential (name : String) : Bool := ["username", "password", "token"].contains name

/-- Whether an argument is an option for credentials, with or without a value attached to it. -/
def isCredentialOption (arg : String) : Bool :=
  match arg.toList with
  | '-' :: '-' :: cs => isCredential (Grammar.longName cs)
  | _ => false

/-- The arguments without the options for credentials and their values. The first of them is left
out if it is the value of such an option. -/
def skipCredentials : Bool → List String → List String
  | _, [] => []
  | true, _ :: rest => skipCredentials false rest
  | false, arg :: rest =>
    if isCredentialOption arg then skipCredentials (!arg.toList.contains '=') rest
    else arg :: skipCredentials false rest

/-- The arguments without the options for credentials. The value of one is attached to it by an
equals sign or is the next argument. -/
def withoutCredentials (args : List String) : List String := skipCredentials false args

/-- The options given but for the credentials. -/
def Given.anonymous (given : Given) : Given := given.filter fun x => !isSecret x.1

/-- What has been read but for the credentials. -/
def Progress.anonymous (p : Progress) : Progress where
  given := Given.anonymous p.given
  pending := p.pending.filter fun x => !isSecret x.1.key

/-- The grammar takes credentials as text, by long options that have their names. -/
structure Grammar.Discreet (g : Grammar) : Prop where
  named : ∀ o ∈ g.options, isSecret o.key = isCredential o.long
  plain : ∀ o ∈ g.options, isSecret o.key = true → o.shape = .text ∧ o.short = none

variable {g : Grammar} {p p' q r : Progress} {o : Opt} {args : List String}

/-! ### Options given -/

namespace Given

variable {given : Given} {key : Key}

theorem has_anonymous (h : isSecret key = false) :
    Progress.has given.anonymous key = Progress.has given key := by
  simp only [Progress.has, anonymous, List.any_filter]
  congr 1
  funext x
  by_cases hx : x.1 = key <;> simp [hx, h]

theorem has_anonymous_secret (h : isSecret key = true) :
    Progress.has given.anonymous key = false := by
  simp only [Progress.has, anonymous, List.any_filter, List.any_eq_false]
  intro x _
  by_cases hx : x.1 = key <;> simp [hx, h]

theorem anonymous_append_secret {v : Value} (h : isSecret key = true) :
    anonymous (given ++ [(key, v)]) = anonymous given := by
  simp [anonymous, h]

theorem anonymous_append_public {v : Value} (h : isSecret key = false) :
    anonymous (given ++ [(key, v)]) = anonymous given ++ [(key, v)] := by
  simp [anonymous, h]

end Given

/-! ### Reading -/

namespace Progress

/-- What is pending is for credentials, or is not. Nothing may be pending at all. -/
def PendingIs (secret : Bool) (p : Progress) : Prop :=
  ∀ x, p.pending = some x → isSecret x.1.key = secret

/-- How far the reading without the credentials is, and whether it skips the next argument. It
is as far as that with them, or still has to look at the option before those for credentials. -/
inductive Follows : Bool → Progress → Progress → Prop
  | even {p : Progress} (hp : p.PendingIs false) : Follows false p p.anonymous
  | behind {p q : Progress} (hp : p.PendingIs true) (hq : q.Settles p.anonymous) :
      Follows p.isWaiting p q

theorem Takes.pendingIs {attached : Option String} (h : Takes o attached p q)
    (hp : p.pending = none) : q.PendingIs (isSecret o.key) := by
  intro x hx
  rw [h.pending_eq hp hx]

theorem pendingIs_of_idle (secret : Bool) (hp : p.pending = none) : p.PendingIs secret := by
  intro x hx
  rw [hp] at hx
  cases hx

theorem pendingIs_value {secret : Bool} (h : p.PendingIs secret)
    (hp : p.pending = some (o, none)) (arg : String) :
    PendingIs secret { p with pending := some (o, some arg) } := by
  intro x hx
  cases hx
  exact h (o, none) hp

theorem pending_anonymous (hp : p.PendingIs false) : p.anonymous.pending = p.pending := by
  unfold anonymous
  cases h : p.pending with
  | none => rfl
  | some x => simp [hp x h]

theorem anonymous_wait (ho : isSecret o.key = false) (a : Option String) :
    { p with pending := some (o, a) }.anonymous =
      { p.anonymous with pending := some (o, a) } := by
  simp [anonymous, ho]

theorem anonymous_of_secret (hp : p.PendingIs true) :
    p.anonymous = { given := Given.anonymous p.given } := by
  unfold anonymous
  cases h : p.pending with
  | none => rfl
  | some x => simp [hp x h]

/-- An option that is not for credentials is added with and without them. -/
theorem add_anonymous {value : Except Problem Value} (ho : isSecret o.key = false)
    (h : p.add o value = .ok q) : p.anonymous.add o value = .ok q.anonymous := by
  obtain ⟨hhas, v, rfl, rfl⟩ := add_eq_ok_iff.mp h
  refine add_eq_ok_iff.mpr ⟨(Given.has_anonymous ho).trans hhas, v, rfl, ?_⟩
  simp only [anonymous, Given.anonymous_append_public ho]

theorem anonymous_add {value : Except Problem Value} (ho : isSecret o.key = true)
    (h : p.add o value = .ok q) : q.anonymous = p.anonymous := by
  obtain ⟨-, v, rfl, rfl⟩ := add_eq_ok_iff.mp h
  simp only [anonymous, Given.anonymous_append_secret ho]

theorem takes_anonymous {attached : Option String} (ho : isSecret o.key = false)
    (h : Takes o attached p q) : Takes o attached p.anonymous q.anonymous := by
  cases h with
  | attached hvalue hadd => exact .attached hvalue (add_anonymous ho hadd)
  | switch hshape hadd => exact .switch hshape (add_anonymous ho hadd)
  | waits hvalue =>
    rw [anonymous_wait ho]
    exact .waits hvalue

theorem anonymous_takes {attached : Option String} (ho : isSecret o.key = true)
    (h : Takes o attached p q) (hp : p.pending = none) : q.anonymous = p.anonymous := by
  cases h with
  | attached _ hadd | switch _ hadd => exact anonymous_add ho hadd
  | waits _ => simp [anonymous, ho, hp]

/-- Once what is pending has been looked at, both are equally far. -/
theorem Follows.settles {skip : Bool} (h : Follows skip p q) (hp : p.Settles p') :
    skip = false ∧ q.Settles p'.anonymous := by
  cases h with
  | even hpublic =>
    refine ⟨rfl, ?_⟩
    cases hp with
    | idle hidle => exact .idle ((pending_anonymous hpublic).trans hidle)
    | value hpending hadd =>
      exact .value ((pending_anonymous hpublic).trans hpending)
        (add_anonymous (hpublic _ hpending) hadd)
  | behind hsecret hq =>
    cases hp with
    | idle hidle => exact ⟨by rw [isWaiting, hidle], hq⟩
    | value hpending hadd =>
      refine ⟨by rw [isWaiting, hpending], ?_⟩
      rw [anonymous_add (hsecret _ hpending) hadd]
      rw [anonymous_of_secret hsecret] at hq
      exact hq

/-- Without the credentials the same option is taken. -/
theorem Follows.take_public {skip : Bool} {attached : Option String} (h : Follows skip p q)
    (ho : isSecret o.key = false) (htake : p.take o attached = .ok p') :
    skip = false ∧ ∃ q', q.take o attached = .ok q' ∧ Follows false p' q' := by
  obtain ⟨p₁, hsettle, htake⟩ := take_eq_ok_iff.mp htake
  obtain ⟨hskip, hq⟩ := h.settles hsettle
  exact ⟨hskip, p'.anonymous, take_eq_ok_iff.mpr ⟨_, hq, takes_anonymous ho htake⟩,
    .even (ho ▸ htake.pendingIs hsettle.pending_eq)⟩

/-- An option for credentials is not there to be taken; the next argument is its value if none
is attached to it. -/
theorem Follows.take_secret {skip : Bool} {attached : Option String} (h : Follows skip p q)
    (ho : isSecret o.key = true) (hshape : o.shape = .text)
    (htake : p.take o attached = .ok p') :
    skip = false ∧ Follows attached.isNone p' q := by
  obtain ⟨p₁, hsettle, htake⟩ := take_eq_ok_iff.mp htake
  obtain ⟨hskip, hq⟩ := h.settles hsettle
  have hidle := hsettle.pending_eq
  have hwaiting : p'.isWaiting = attached.isNone := by
    cases htake with
    | attached _ hadd =>
      rw [isWaiting, pending_of_add hadd, hidle]
      rfl
    | waits _ => rfl
    | switch hswitch _ => cases hshape.symm.trans hswitch
  rw [← anonymous_takes ho htake hidle] at hq
  exact ⟨hskip, hwaiting ▸ .behind (ho ▸ htake.pendingIs hidle) hq⟩

/-- The value of an option for credentials is skipped, and any other value is given to the same
option on both sides. -/
theorem Follows.value {skip : Bool} (h : Follows skip p q) (hp : p.pending = some (o, none))
    (arg : String) :
    skip = true ∧ Follows false { p with pending := some (o, some arg) } q ∨
      skip = false ∧ q.pending = some (o, none) ∧
        Follows false { p with pending := some (o, some arg) }
          { q with pending := some (o, some arg) } := by
  cases h with
  | even hpublic =>
    have hvalue := Follows.even (pendingIs_value hpublic hp arg)
    rw [anonymous_wait (hpublic _ hp)] at hvalue
    exact .inr ⟨rfl, (pending_anonymous hpublic).trans hp, hvalue⟩
  | behind hsecret hq =>
    have hskip : p.isWaiting = true := by rw [isWaiting, hp]
    have hvalue := pendingIs_value hsecret hp arg
    rw [anonymous_of_secret hsecret] at hq
    exact .inl ⟨hskip, .behind hvalue (anonymous_of_secret hvalue ▸ hq)⟩

end Progress

namespace Grammar

open Progress (Follows)

theorem isSecret_of_long (hg : g.Discreet) {name : String} (h : g.long? name = some o) :
    isSecret o.key = isCredential name := by
  obtain ⟨ho, rfl⟩ := mem_of_long h
  exact hg.named o ho

theorem isSecret_of_short (hg : g.Discreet) {c : Char} (h : g.short? c = some o) :
    isSecret o.key = false := by
  obtain ⟨ho, hc⟩ := mem_of_short h
  cases hsecret : isSecret o.key with
  | false => rfl
  | true => cases (hg.plain o ho hsecret).2.symm.trans hc

/-- Short options are never for credentials; all of them are taken on both sides. -/
theorem readShort_follows (hg : g.Discreet) {skip : Bool} {cs : List Char}
    (h : Follows skip p q) (hread : g.readShort p cs = .ok p') (hcs : cs = [] → skip = false) :
    skip = false ∧ ∃ q', g.readShort q cs = .ok q' ∧ Follows false p' q' := by
  induction cs generalizing skip p q with
  | nil =>
    obtain rfl := hcs rfl
    cases hread
    exact ⟨rfl, q, rfl, h⟩
  | cons c rest ih =>
    cases ho : g.short? c with
    | none =>
      simp only [readShort, ho] at hread
      cases hread
    | some o =>
      have hpublic := isSecret_of_short hg ho
      cases hvalue : o.takesValue with
      | true =>
        obtain ⟨a, ha⟩ := readShort_value ho hvalue rest
        rw [ha] at hread ⊢
        exact h.take_public hpublic hread
      | false =>
        rw [readShort_switch ho hvalue] at hread ⊢
        obtain ⟨p₁, hone, hread⟩ := bind_eq_ok_iff.mp hread
        obtain ⟨hskip, q₁, hq₁, hfollows⟩ := h.take_public hpublic hone
        rw [hq₁]
        exact ⟨hskip, (ih hfollows hread fun _ => rfl).2⟩

theorem isCredentialOption_long {arg : String} {cs : List Char}
    (harg : arg.toList = '-' :: '-' :: cs) :
    isCredentialOption arg = isCredential (longName cs) := by
  rw [isCredentialOption, harg]
  rfl

theorem isCredentialOption_short {arg : String} {c : Char} {cs : List Char}
    (harg : arg.toList = '-' :: c :: cs) (hc : c ≠ '-') : isCredentialOption arg = false := by
  rw [isCredentialOption, harg]
  split <;> simp_all

theorem isCredentialOption_value {arg : String} (harg : IsValue arg) :
    isCredentialOption arg = false := by
  rw [isCredentialOption]
  split
  · next h => exact absurd h (harg _ _)
  · rfl

/-- Arguments that are read are read without their credentials, to the same options but for
those. -/
theorem Reads.skipCredentials (hg : g.Discreet) {skip : Bool} (h : g.Reads p args r)
    (hfollows : Follows skip p q) :
    g.read q (skipCredentials skip args) = .ok r.anonymous := by
  -- both readings take an argument at a time; `Follows` tells how far the one without is
  induction h generalizing skip q with
  | done h =>
    obtain ⟨-, hq⟩ := hfollows.settles h
    cases skip <;> exact Progress.settle_eq_ok_iff.mpr hq
  | stop harg h =>
    obtain ⟨rfl, hq⟩ := hfollows.settles h
    have hoption := isCredentialOption_long harg
    rw [CommandLine.skipCredentials, hoption, if_neg (by decide), CommandLine.skipCredentials,
      read_stop harg]
    exact Progress.settle_eq_ok_iff.mpr hq
  | @long arg cs _ _ _ _ harg hcs h _ ih =>
    obtain ⟨o, ho, htake⟩ := readLong_eq_ok_iff.mp h
    have hoption := (isCredentialOption_long harg).trans (isSecret_of_long hg ho).symm
    cases hsecret : isSecret o.key with
    | true =>
      have hshape := (hg.plain o (mem_of_long ho).1 hsecret).1
      obtain ⟨rfl, hfollows'⟩ := hfollows.take_secret hsecret hshape htake
      have hattached : (!arg.toList.contains '=') = (attached? cs).isNone := by
        rw [isNone_attached, harg]
        rfl
      rw [CommandLine.skipCredentials, hoption, if_pos hsecret, hattached]
      exact ih hfollows'
    | false =>
      obtain ⟨rfl, q', hq', hfollows'⟩ := hfollows.take_public hsecret htake
      rw [CommandLine.skipCredentials, hoption, if_neg (by rw [hsecret]; decide),
        read_long harg hcs, readLong_eq_ok_iff.mpr ⟨o, ho, hq'⟩]
      exact ih hfollows'
  | short harg hc h _ ih =>
    obtain ⟨rfl, q', hq', hfollows'⟩ := readShort_follows hg hfollows h nofun
    rw [CommandLine.skipCredentials, isCredentialOption_short harg hc, if_neg (by decide),
      read_short harg hc, hq']
    exact ih hfollows'
  | value harg hp _ ih =>
    obtain ⟨rfl, hfollows'⟩ | ⟨rfl, hq, hfollows'⟩ := hfollows.value hp _
    · rw [CommandLine.skipCredentials]
      exact ih hfollows'
    · rw [CommandLine.skipCredentials, isCredentialOption_value harg, if_neg (by decide),
        read_value harg hq]
      exact ih hfollows'

/-- Arguments that differ in the credentials alone give the same options but for those. -/
theorem anonymous_eq_of_parse (hg : g.Discreet) {args' : List String} {given given' : Given}
    (h : g.parse args = .ok given) (h' : g.parse args' = .ok given')
    (heq : withoutCredentials args = withoutCredentials args') :
    given.anonymous = given'.anonymous := by
  have hread {args : List String} {given : Given} (h : g.parse args = .ok given) :
      ∃ p : Progress, g.read {} (withoutCredentials args) = .ok p.anonymous ∧ p.given = given := by
    obtain ⟨p, hp, -, hgiven⟩ := parse_eq_ok_iff.mp h
    exact ⟨p, (reads_of_read hp).skipCredentials hg (.even (Progress.pendingIs_of_idle _ rfl)), hgiven⟩
  obtain ⟨p, hp, rfl⟩ := hread h
  obtain ⟨p', hp', rfl⟩ := hread h'
  rw [heq, hp', Except.ok.injEq] at hp
  exact (congrArg Progress.given hp).symm

end Grammar

end ScanGate.CommandLine
