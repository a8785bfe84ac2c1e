import ScanGate.CommandLine.Grammar

/-! How arguments are read. They are read from left to right, and every argument is a long
option, several short ones, or the value that the option before it waits for. Before an option
is taken, the one that is still pending is looked at. -/
namespace ScanGate.CommandLine

variable {g : Grammar} {p q p' : Progress} {o : Opt} {args : List String}

theorem bind_eq_ok_iff {α β : Type} {x : Except Problem α} {f : α → Except Problem β} {b : β} :
    x.bind f = .ok b ↔ ∃ a, x = .ok a ∧ f a = .ok b := by
  cases x <;> simp [Except.bind]

namespace Progress

/-! ### One option -/

theorem add_eq_ok_iff {value : Except Problem Value} : p.add o value = .ok q ↔
    has p.given o.key = false ∧
      ∃ v, value = .ok v ∧ q = { p with given := p.given ++ [(o.key, v)] } := by
  unfold add
  cases hhas : has p.given o.key with
  | true => simp
  | false =>
    cases value with
    | error _ => simp [Except.map]
    | ok v => simp [Except.map, eq_comm]

theorem pending_of_add {value : Except Problem Value} (h : p.add o value = .ok q) :
    q.pending = p.pending := by
  obtain ⟨-, _, -, rfl⟩ := add_eq_ok_iff.mp h
  rfl

/-- What is pending has been looked at: nothing was, or it had a value that can be read. -/
inductive Settles : Progress → Progress → Prop
  | idle {p : Progress} (hp : p.pending = none) : Settles p p
  | value {p q : Progress} {o : Opt} {s : String} (hp : p.pending = some (o, some s))
      (hadd : { p with pending := none }.add o (o.read s) = .ok q) : Settles p q

theorem settle_eq_ok_iff : p.settle = .ok q ↔ p.Settles q := by
  constructor
  · intro h
    unfold settle at h
    split at h
    · next hp =>
      cases h
      exact .idle hp
    · cases h
    · next hp => exact .value hp h
  · rintro (hp | ⟨hp, hadd⟩)
    · simp only [settle, hp]
    · simp only [settle, hp]
      exact hadd

theorem Settles.pending_eq (h : p.Settles q) : q.pending = none := by
  cases h with
  | idle hp => exact hp
  | value hp hadd => exact pending_of_add hadd

/-- An option with or without a value attached to it, when nothing is pending. -/
inductive Takes (o : Opt) : Option String → Progress → Progress → Prop
  | attached {s : String} {p q : Progress} (hvalue : o.takesValue = true)
      (hadd : p.add o (o.read s) = .ok q) : Takes o (some s) p q
  | waits {p : Progress} (hvalue : o.takesValue = true) :
      Takes o none p { p with pending := some (o, none) }
  | switch {p q : Progress} (hshape : o.shape = .switch) (hadd : p.add o (.ok .on) = .ok q) :
      Takes o none p q

theorem Takes.pending_eq {attached : Option String} (h : Takes o attached p q)
    (hp : p.pending = none) {x : Opt × Option String} (hx : q.pending = some x) :
    x = (o, none) := by
  cases h with
  | waits _ =>
    cases hx
    rfl
  | attached _ hadd | switch _ hadd =>
    rw [pending_of_add hadd, hp] at hx
    cases hx

theorem takes_of_take {attached : Option String} (h : p.take o attached = .ok q) :
    ∃ p₁, p.settle = .ok p₁ ∧ Takes o attached p₁ q := by
  unfold take at h
  cases hvalue : o.takesValue with
  | true =>
    rw [if_pos hvalue] at h
    obtain ⟨p₁, hp, h⟩ := bind_eq_ok_iff.mp h
    refine ⟨p₁, hp, ?_⟩
    cases attached with
    | some s => exact .attached hvalue h
    | none =>
      cases h
      exact .waits hvalue
  | false =>
    rw [hvalue, if_neg Bool.false_ne_true] at h
    cases attached with
    | some _ => cases h
    | none =>
      obtain ⟨p₁, hp, h⟩ := bind_eq_ok_iff.mp h
      refine ⟨p₁, hp, ?_⟩
      cases hshape : o.shape with
      | switch =>
        rw [hshape] at h
        exact .switch hshape h
      | help | version =>
        rw [hshape] at h
        cases h
      | _ =>
        rw [Opt.takesValue, hshape] at hvalue
        cases hvalue

theorem Takes.take_eq {p₁ : Progress} {attached : Option String} (h : Takes o attached p₁ q)
    (hp : p.settle = .ok p₁) : p.take o attached = .ok q := by
  cases h with
  | attached hvalue hadd =>
    simp only [take, hvalue, hp, if_true]
    exact hadd
  | waits hvalue =>
    simp only [take, hvalue, hp, if_true]
    rfl
  | switch hshape hadd =>
    have hvalue : o.takesValue = false := by rw [Opt.takesValue, hshape]
    simp only [take, hvalue, hp, hshape, Bool.false_eq_true, if_false]
    exact hadd

theorem take_eq_ok_iff {attached : Option String} : p.take o attached = .ok q ↔
    ∃ p₁, p.Settles p₁ ∧ Takes o attached p₁ q := by
  simp only [← settle_eq_ok_iff]
  exact ⟨takes_of_take, fun ⟨_, hp, htakes⟩ => htakes.take_eq hp⟩

end Progress

namespace Grammar

/-! ### One argument -/

/-- The name in a long option. -/
def longName (cs : List Char) : String := String.ofList (cs.takeWhile (· != '='))

/-- The value attached to a long option. -/
def attached? (cs : List Char) : Option String :=
  (cs.dropWhile (· != '=')).tail?.map String.ofList

theorem isNone_attached (cs : List Char) : (attached? cs).isNone = !cs.contains '=' := by
  rw [attached?, Option.isNone_map]
  induction cs with
  | nil => rfl
  | cons c cs ih =>
    by_cases hc : c = '='
    · subst hc
      rfl
    · simpa [List.dropWhile_cons, hc, Ne.symm hc] using ih

theorem readLong_eq_ok_iff {cs : List Char} : g.readLong p cs = .ok q ↔
    ∃ o, g.long? (longName cs) = some o ∧ p.take o (attached? cs) = .ok q := by
  unfold readLong attached? longName
  cases cs.dropWhile (· != '=') <;> cases g.long? (String.ofList (cs.takeWhile (· != '='))) <;>
    simp

theorem mem_of_long {name : String} (h : g.long? name = some o) :
    o ∈ g.options ∧ o.long = name :=
  ⟨List.mem_of_find?_eq_some h, by simpa using List.find?_some h⟩

theorem mem_of_short {c : Char} (h : g.short? c = some o) :
    o ∈ g.options ∧ o.short = some c :=
  ⟨List.mem_of_find?_eq_some h, by simpa using List.find?_some h⟩

/-- An option with a short name takes what follows in the argument as its value, if it takes
one. -/
theorem readShort_value {c : Char} (ho : g.short? c = some o) (hvalue : o.takesValue = true)
    (rest : List Char) : ∃ attached, ∀ p, g.readShort p (c :: rest) = p.take o attached := by
  cases rest with
  | nil => exact ⟨none, fun p => by simp only [readShort, ho, hvalue, if_true]⟩
  | cons d value =>
    by_cases hd : d = '='
    · subst hd
      exact ⟨some (String.ofList value), fun p => by simp only [readShort, ho, hvalue, if_true]⟩
    · refine ⟨some (String.ofList (d :: value)), fun p => ?_⟩
      simp only [readShort, ho, hvalue, if_true]
      split <;> simp_all

theorem readShort_switch {c : Char} (ho : g.short? c = some o) (hvalue : o.takesValue = false)
    (rest : List Char) : g.readShort p (c :: rest) =
      (p.take o none).bind fun p' => g.readShort p' rest := by
  simp only [readShort, ho, hvalue, Bool.false_eq_true, if_false]
  rfl

/-- An argument that is a value where one is waited for. -/
def IsValue (arg : String) : Prop := ∀ c cs, arg.toList ≠ '-' :: c :: cs

/-! ### All arguments -/

/-- Arguments that are read to their end. -/
inductive Reads (g : Grammar) : Progress → List String → Progress → Prop
  | done {p q : Progress} (h : p.Settles q) : Reads g p [] q
  | stop {arg : String} {p q : Progress} (harg : arg.toList = ['-', '-'])
      (h : p.Settles q) : Reads g p [arg] q
  | long {arg : String} {cs : List Char} {rest : List String} {p p' q : Progress}
      (harg : arg.toList = '-' :: '-' :: cs) (hcs : cs ≠ []) (h : g.readLong p cs = .ok p')
      (hrest : Reads g p' rest q) : Reads g p (arg :: rest) q
  | short {arg : String} {c : Char} {cs : List Char} {rest : List String} {p p' q : Progress}
      (harg : arg.toList = '-' :: c :: cs) (hc : c ≠ '-') (h : g.readShort p (c :: cs) = .ok p')
      (hrest : Reads g p' rest q) : Reads g p (arg :: rest) q
  | value {arg : String} {o : Opt} {rest : List String} {p q : Progress} (harg : IsValue arg)
      (hp : p.pending = some (o, none))
      (hrest : Reads g { p with pending := some (o, some arg) } rest q) : Reads g p (arg :: rest) q

/-! Reading one more argument, by what it looks like. -/

theorem read_stop {arg : String} (harg : arg.toList = ['-', '-']) :
    g.read p [arg] = p.settle := by
  simp only [read, harg, List.isEmpty_nil, if_true]

theorem read_long {arg : String} {cs : List Char} (harg : arg.toList = '-' :: '-' :: cs)
    (hcs : cs ≠ []) : g.read p (arg :: args) = (g.readLong p cs).bind (g.read · args) := by
  rw [read, harg]
  cases cs with
  | nil => exact absurd rfl hcs
  | cons c cs => rfl

theorem read_short {arg : String} {c : Char} {cs : List Char}
    (harg : arg.toList = '-' :: c :: cs) (hc : c ≠ '-') :
    g.read p (arg :: args) = (g.readShort p (c :: cs)).bind (g.read · args) := by
  rw [read, harg]
  split <;> simp_all
  rfl

theorem read_value {arg : String} (harg : IsValue arg) (hp : p.pending = some (o, none)) :
    g.read p (arg :: args) = g.read { p with pending := some (o, some arg) } args := by
  rw [read]
  split
  · next h => exact absurd h (harg _ _)
  · next h => exact absurd h (harg _ _)
  · next h => exact absurd h (harg _ _)
  · rw [hp]

theorem reads_of_read (h : g.read p args = .ok q) : g.Reads p args q := by
  induction args generalizing p with
  | nil => exact .done (Progress.settle_eq_ok_iff.mp h)
  | cons arg rest ih =>
    unfold read at h
    split at h
    · next harg =>
      cases rest with
      | nil => exact .stop harg (Progress.settle_eq_ok_iff.mp h)
      | cons _ _ => cases h
    · next cs hcs harg =>
      obtain ⟨p', hread, h⟩ := bind_eq_ok_iff.mp h
      exact .long harg hcs hread (ih h)
    · next c cs _ hc harg =>
      obtain ⟨p', hread, h⟩ := bind_eq_ok_iff.mp h
      exact .short harg hc hread (ih h)
    · next harg =>
      split at h
      · next hp => exact .value harg hp (ih h)
      · cases h

/-! ### What is preserved -/

/-- What looking at an option and taking one preserves, short options in one argument do. -/
theorem readShort_preserves {I : Progress → Prop}
    (hsettles : ∀ {p q : Progress}, p.Settles q → I p → I q)
    (htakes : ∀ {o a} {p q : Progress}, o ∈ g.options → Progress.Takes o a p q → I p → I q)
    {cs : List Char} (h : g.readShort p cs = .ok q) (hp : I p) : I q := by
  have htake {o : Opt} {a : Option String} {p q : Progress} (ho : o ∈ g.options)
      (h : p.take o a = .ok q) (hp : I p) : I q := by
    obtain ⟨p₁, hsettle, htake⟩ := Progress.take_eq_ok_iff.mp h
    exact htakes ho htake (hsettles hsettle hp)
  induction cs generalizing p with
  | nil =>
    cases h
    exact hp
  | cons c rest ih =>
    cases ho : g.short? c with
    | none =>
      simp only [readShort, ho] at h
      cases h
    | some o =>
      cases hvalue : o.takesValue with
      | true =>
        obtain ⟨a, ha⟩ := readShort_value ho hvalue rest
        exact htake (mem_of_short ho).1 ((ha p).symm.trans h) hp
      | false =>
        rw [readShort_switch ho hvalue] at h
        obtain ⟨p', hone, h⟩ := bind_eq_ok_iff.mp h
        exact ih h (htake (mem_of_short ho).1 hone hp)

/-- What looking at an option, taking one and giving it its value preserve, reading does. -/
theorem Reads.preserves {I : Progress → Prop}
    (hsettles : ∀ {p q : Progress}, p.Settles q → I p → I q)
    (htakes : ∀ {o a} {p q : Progress}, o ∈ g.options → Progress.Takes o a p q → I p → I q)
    (hvalue : ∀ {o s} {p : Progress}, p.pending = some (o, none) → I p →
      I { p with pending := some (o, some s) })
    (h : g.Reads p args q) (hp : I p) : I q := by
  induction h with
  | done h | stop _ h => exact hsettles h hp
  | long _ _ h _ ih =>
    obtain ⟨o, ho, h⟩ := readLong_eq_ok_iff.mp h
    obtain ⟨p₁, hsettle, htake⟩ := Progress.take_eq_ok_iff.mp h
    exact ih (htakes (mem_of_long ho).1 htake (hsettles hsettle hp))
  | short _ _ h _ ih => exact ih (readShort_preserves hsettles htakes h hp)
  | value _ hwaits _ ih => exact ih (hvalue hwaits hp)

end Grammar

/-! ### Where values come from -/

/-- A value that an option makes: it is on, or it is read from a text. -/
inductive Opt.Makes (o : Opt) : Value → Prop
  | on (hshape : o.shape = .switch) : Makes o .on
  | text {s : String} {v : Value} (h : o.read s = .ok v) : Makes o v

/-- Everything that is given was made by an option of the grammar. -/
def Grammar.Makes (g : Grammar) (given : Given) : Prop :=
  ∀ x ∈ given, ∃ o ∈ g.options, o.key = x.1 ∧ o.Makes x.2

theorem Grammar.Makes.add {value : Except Problem Value} (hp : g.Makes p.given)
    (ho : o ∈ g.options) (hvalue : ∀ v, value = .ok v → o.Makes v) (h : p.add o value = .ok q) :
    g.Makes q.given := by
  obtain ⟨-, v, hv, rfl⟩ := Progress.add_eq_ok_iff.mp h
  intro x hx
  obtain hx | hx := List.mem_append.mp hx
  · exact hp x hx
  · obtain rfl := List.mem_singleton.mp hx
    exact ⟨o, ho, rfl, hvalue v hv⟩

namespace Grammar

theorem makes_of_reads (h : g.Reads {} args q) : g.Makes q.given := by
  have hstart : g.Makes ({} : Progress).given ∧
      ∀ x, ({} : Progress).pending = some x → x.1 ∈ g.options :=
    ⟨fun x hx => absurd hx List.not_mem_nil, fun x hx => absurd hx (Option.some_ne_none x).symm⟩
  -- an option that waits for its value is one of the grammar, so it will make the value
  refine (Reads.preserves (I := fun p => g.Makes p.given ∧ ∀ x, p.pending = some x → x.1 ∈ g.options)
    ?_ ?_ ?_ h hstart).1
  · rintro p q hsettles ⟨hmakes, hoptions⟩
    refine ⟨?_, fun x hx => by cases hsettles.pending_eq.symm.trans hx⟩
    cases hsettles with
    | idle _ => exact hmakes
    | value hpending hadd =>
      have ho := hoptions _ hpending
      exact Makes.add (p := { p with pending := none }) hmakes ho (fun _ => .text) hadd
  · intro o a p q ho htakes ⟨hmakes, hoptions⟩
    cases htakes with
    | attached _ hadd =>
      rw [Progress.pending_of_add hadd]
      exact ⟨hmakes.add ho (fun _ => .text) hadd, hoptions⟩
    | waits _ =>
      refine ⟨hmakes, fun x hx => ?_⟩
      cases hx
      exact ho
    | switch hshape hadd =>
      rw [Progress.pending_of_add hadd]
      refine ⟨hmakes.add ho (fun v hv => ?_) hadd, hoptions⟩
      cases hv
      exact .on hshape
  · intro o s p hpending ⟨hmakes, hoptions⟩
    refine ⟨hmakes, fun x hx => ?_⟩
    cases hx
    exact hoptions (o, none) hpending

/-! ### Rules -/

/-- The options given keep the rules of the grammar. -/
structure Admits (g : Grammar) (given : Given) : Prop where
  compatible : ∀ a b, Progress.has given a = true → Progress.has given b = true →
    g.excludes a b = false
  complete : ∀ group ∈ g.required, ∃ key ∈ group, Progress.has given key = true
  provided : ∀ a b, (a, b) ∈ g.needs → Progress.has given a = true → Progress.has given b = true

theorem any_excludes_eq_false_iff {given : Given} :
    (given.any fun x => given.any fun y => g.excludes x.1 y.1) = false ↔
      ∀ a b, Progress.has given a = true → Progress.has given b = true →
        g.excludes a b = false := by
  simp only [Progress.has, List.any_eq_false, List.any_eq_true, beq_iff_eq, not_exists, not_and,
    Bool.not_eq_true]
  constructor
  · rintro h a b ⟨x, hx, rfl⟩ ⟨y, hy, rfl⟩
    exact h x hx y hy
  · exact fun h x hx y hy => h _ _ ⟨x, hx, rfl⟩ ⟨y, hy, rfl⟩

theorem check_eq_ok_iff {given : Given} : g.check given = .ok () ↔ g.Admits given := by
  have hcomplete : (g.required.any fun group => !group.any (Progress.has given)) = false ↔
      ∀ group ∈ g.required, ∃ key ∈ group, Progress.has given key = true := by
    simp
  have hprovided : (g.needs.any fun x => Progress.has given x.1 && !Progress.has given x.2) =
      false ↔ ∀ a b, (a, b) ∈ g.needs → Progress.has given a = true →
        Progress.has given b = true := by
    simp
  have hcheck : g.check given =
      if given.any (fun x => given.any fun y => g.excludes x.1 y.1) then .error .conflict
      else if g.required.any (fun group => !group.any (Progress.has given)) ||
          g.needs.any (fun x => Progress.has given x.1 && !Progress.has given x.2) then
        .error .missingRequired
      else .ok () := rfl
  rw [hcheck]
  constructor
  · intro h
    split at h
    · cases h
    · next hexcludes =>
      split at h
      · cases h
      · next hrules =>
        rw [Bool.or_eq_true, not_or, Bool.not_eq_true, Bool.not_eq_true] at hrules
        exact ⟨any_excludes_eq_false_iff.mp (Bool.not_eq_true _ ▸ hexcludes),
          hcomplete.mp hrules.1, hprovided.mp hrules.2⟩
  · rintro ⟨hexcludes, hrequired, hneeds⟩
    rw [any_excludes_eq_false_iff.mpr hexcludes, hcomplete.mpr hrequired, hprovided.mpr hneeds]
    rfl

theorem parse_eq_ok_iff {given : Given} : g.parse args = .ok given ↔
    ∃ p, g.read {} args = .ok p ∧ g.check p.given = .ok () ∧ p.given = given := by
  refine bind_eq_ok_iff.trans (exists_congr fun p => and_congr_right fun _ =>
    bind_eq_ok_iff.trans ?_)
  constructor
  · rintro ⟨_, hcheck, hgiven⟩
    exact ⟨hcheck, Except.ok.inj hgiven⟩
  · rintro ⟨hcheck, rfl⟩
    exact ⟨(), hcheck, rfl⟩

end Grammar

end ScanGate.CommandLine
