import Mathlib.Data.List.TakeWhile
import ScanGate.Proofs.Text.Split
import ScanGate.Url

/-! The parts of a web address as they stand in its text, before any of them is read. Slashes
and backslashes after the scheme do not count; then comes the authority, up to a slash, a
backslash, a question mark or a number sign, and what stands before its last at sign is a
user. Reading an address is reading these parts, each on its own. -/
namespace ScanGate

namespace Text

variable {p : Char → Bool} {c : Char} {xs ys : List Char}

theorem cut_append_cons (hxs : ∀ c ∈ xs, p c = false) (hc : p c = true) (ys : List Char) :
    cut p (xs ++ c :: ys) = (xs, c :: ys) := by
  have hall : ∀ c ∈ xs, (!p c) = true := fun c hmem => by simp [hxs c hmem]
  simp [cut, List.takeWhile_append_of_pos hall, List.dropWhile_append_of_pos hall, hc]

theorem cut_of_forall (hxs : ∀ c ∈ xs, p c = false) : cut p xs = (xs, []) := by
  have hall : ∀ c ∈ xs, (!p c) = true := fun c hmem => by simp [hxs c hmem]
  simp only [cut, List.takeWhile_eq_self_iff.mpr hall, List.dropWhile_eq_nil_iff.mpr hall]

theorem forall_mem_cut_fst (p : Char → Bool) (cs : List Char) :
    ∀ c ∈ (cut p cs).1, p c = false := fun c hc => by
  simpa using List.mem_takeWhile_imp hc

end Text

namespace Url

/-- The parts of a web address. -/
structure Division where
  user : Option (List Char)
  /-- Host and port. -/
  authority : List Char
  path : List Char
  query : Option (List Char)
  fragment : Option (List Char)
  deriving DecidableEq

/-- Divides what follows the slashes. -/
def divide (cs : List Char) : Division :=
  let (front, tail) := Text.cut (endsAuthority true) cs
  let (user, authority) := splitUser front
  let (front, fragment) := Text.cut (· == '#') tail
  let (path, query) := Text.cut (· == '?') front
  { user, authority, path, query := query.tail?, fragment := fragment.tail? }

/-- The scheme of an address and its parts. -/
def divide? (s : String) : Option (String × Division) :=
  (splitScheme (clean s.toList)).map fun (scheme, rest) =>
    (scheme, divide (rest.dropWhile (isSlash true)))

/-! ### The authority -/

variable {cs : List Char} {c : Char}

theorem splitUser_of_notMem (h : '@' ∉ cs) : splitUser cs = (none, cs) := by
  have hdrop : cs.reverse.dropWhile (· != '@') = [] := by
    rw [List.dropWhile_eq_nil_iff]
    intro c hc
    have hne : c ≠ '@' := fun heq => h (heq ▸ List.mem_reverse.mp hc)
    simpa using hne
  simp only [splitUser, hdrop]

theorem notMem_of_splitUser {rest : List Char} (h : splitUser cs = (none, rest)) :
    rest = cs ∧ '@' ∉ cs := by
  unfold splitUser at h
  simp only at h
  split at h
  · next hdrop =>
    cases h
    refine ⟨rfl, fun hmem => ?_⟩
    have hall := List.dropWhile_eq_nil_iff.mp hdrop '@' (List.mem_reverse.mpr hmem)
    simp at hall
  · cases h

theorem mem_of_mem_splitUser (h : c ∈ (splitUser cs).2) : c ∈ cs := by
  unfold splitUser at h
  simp only at h
  split at h
  · exact h
  · have hmem := (List.takeWhile_prefix _).subset (List.mem_reverse.mp h)
    exact List.mem_reverse.mp hmem

theorem mem_of_mem_splitPort {inside : Bool} {after : List Char}
    (h : (splitPort inside cs).2 = some after) (hc : c ∈ after) : c ∈ cs := by
  fun_induction splitPort inside cs with
  | case1 => cases h
  | case2 inside d rest =>
    cases h
    exact List.mem_cons_of_mem _ hc
  | case3 inside d rest _ host port heq ih =>
    simp only [heq] at h ih
    exact List.mem_cons_of_mem _ (ih h)

/-! ### Dividing -/

/-- A text in which nothing starts a query or a fragment is a path as a whole. -/
theorem cut_path (h : ∀ c ∈ cs, c ≠ '?' ∧ c ≠ '#') :
    Text.cut (· == '#') cs = (cs, []) ∧ Text.cut (· == '?') cs = (cs, []) :=
  ⟨Text.cut_of_forall fun c hc => beq_eq_false_iff_ne.mpr (h c hc).2,
    Text.cut_of_forall fun c hc => beq_eq_false_iff_ne.mpr (h c hc).1⟩

/-- A host without anything that could end it, and a path. -/
theorem divide_append {host path : List Char} (hhost : ∀ c ∈ host, endsAuthority true c = false)
    (huser : '@' ∉ host) (hpath : ∀ c ∈ path, c ≠ '?' ∧ c ≠ '#') :
    divide (host ++ '/' :: path) =
      { user := none, authority := host, path := '/' :: path, query := none, fragment := none } := by
  have hfront := Text.cut_append_cons hhost (by decide : endsAuthority true '/' = true) path
  obtain ⟨hfragment, hquery⟩ : Text.cut (· == '#') ('/' :: path) = ('/' :: path, []) ∧
      Text.cut (· == '?') ('/' :: path) = ('/' :: path, []) :=
    cut_path (List.forall_mem_cons.mpr ⟨by decide, hpath⟩)
  simp only [divide, hfront, splitUser_of_notMem huser, hfragment, hquery, List.tail?_nil]

/-- Where nothing starts a query or a fragment, the path goes on to the end. -/
theorem exists_divide_path {xs tail : List Char} (hxs : ∀ c ∈ xs, c ≠ '?' ∧ c ≠ '#')
    (htail : ∀ c ∈ tail, c ≠ '?' ∧ c ≠ '#') :
    ∃ before, (divide (xs ++ '/' :: tail)).path = before ++ '/' :: tail := by
  have hslash : ('/' :: tail).dropWhile (!endsAuthority true ·) = '/' :: tail :=
    List.dropWhile_cons_of_neg (by decide)
  have hcut : (Text.cut (endsAuthority true) (xs ++ '/' :: tail)).2 =
      xs.dropWhile (!endsAuthority true ·) ++ '/' :: tail := by
    rw [Text.cut, List.dropWhile_append, hslash]
    split
    · next h => rw [List.isEmpty_iff.mp h, List.nil_append]
    · rfl
  have hbefore : ∀ c ∈ xs.dropWhile (!endsAuthority true ·), c ≠ '?' ∧ c ≠ '#' :=
    fun c hc => hxs c ((List.dropWhile_sublist _).subset hc)
  generalize xs.dropWhile (!endsAuthority true ·) = before at *
  have hpath : ∀ c ∈ before ++ '/' :: tail, c ≠ '?' ∧ c ≠ '#' :=
    List.forall_mem_append.mpr ⟨hbefore, List.forall_mem_cons.mpr ⟨by decide, htail⟩⟩
  obtain ⟨hfragment, hquery⟩ := cut_path hpath
  refine ⟨before, ?_⟩
  simp only [divide, hcut, hfragment, hquery]

/-- Nothing in an authority without a user could end it or be the end of a user. -/
theorem forall_mem_authority (h : (divide cs).user = none) :
    ∀ c ∈ (divide cs).authority, endsAuthority true c = false ∧ c ≠ '@' := by
  have huser : splitUser (Text.cut (endsAuthority true) cs).1 =
    (none, (divide cs).authority) := Prod.ext h rfl
  obtain ⟨hauthority, hat⟩ := notMem_of_splitUser huser
  rw [hauthority]
  exact fun c hc => ⟨Text.forall_mem_cut_fst _ cs c hc, fun heq => hat (heq ▸ hc)⟩

/-- Where there is nothing to be removed, cleaning changes nothing. -/
theorem clean_eq_self (hfirst : ∀ c ∈ cs.head?, 0x20 < c.toNat)
    (hlast : ∀ c ∈ cs.getLast?, 0x20 < c.toNat)
    (h : ∀ c ∈ cs, c ≠ '\t' ∧ c ≠ '\n' ∧ c ≠ '\r') : clean cs = cs := by
  have hfront : cs.dropWhile (fun c => decide (c.toNat ≤ 0x20)) = cs :=
    Text.dropWhile_eq_self fun c hc => by simpa using hfirst c hc
  have hback : cs.reverse.dropWhile (fun c => decide (c.toNat ≤ 0x20)) = cs.reverse :=
    Text.dropWhile_eq_self fun c hc => by
      rw [List.head?_reverse] at hc
      simpa using hlast c hc
  simp only [clean, hfront, hback, List.reverse_reverse]
  exact List.filter_eq_self.mpr fun c hc => by simp [h c hc]

/-- What stands before the authority. -/
def secure : List Char := ['h', 't', 't', 'p', 's', ':', '/', '/']

/-- A secure address is divided behind its slashes. -/
theorem divide?_secure {rest : List Char}
    (hlast : ∀ c ∈ (secure ++ rest).getLast?, 0x20 < c.toNat)
    (h : ∀ c ∈ rest, c ≠ '\t' ∧ c ≠ '\n' ∧ c ≠ '\r') :
    divide? (String.ofList (secure ++ rest)) =
      some ("https", divide (rest.dropWhile (isSlash true))) := by
  have hall : ∀ c ∈ secure ++ rest, c ≠ '\t' ∧ c ≠ '\n' ∧ c ≠ '\r' :=
    List.forall_mem_append.mpr ⟨by simp [secure], h⟩
  have hclean : clean (secure ++ rest) = secure ++ rest :=
    clean_eq_self (fun c hc => by cases hc; decide) hlast hall
  have hscheme : splitScheme (secure ++ rest) = some ("https", '/' :: '/' :: rest) := rfl
  have hslashes : ('/' :: '/' :: rest).dropWhile (isSlash true) =
      rest.dropWhile (isSlash true) := by
    rw [List.dropWhile_cons_of_pos (by decide), List.dropWhile_cons_of_pos (by decide)]
  rw [divide?, String.toList_ofList, hclean, hscheme]
  exact congrArg (fun cs => some ("https", divide cs)) hslashes

/-! ### Reading -/

/-- The parts, each read on its own, make this address. -/
structure Division.Reads (d : Division) (scheme : String) (u : Url) : Prop where
  scheme_eq : u.scheme = scheme
  user : u.user = d.user.bind user?
  host : u.host = HostName.ofDomain? (splitPort false d.authority).1
  port : port? scheme ((splitPort false d.authority).2.getD []) = some u.port
  path : u.path = absolutePath true d.path
  query : u.query = d.query.map (encode keepSpecialQuery)
  fragment : u.fragment = d.fragment.map (encode keepFragment)

theorem guarded_eq_some {α β : Type} {p : Prop} [Decidable p] {f : β → Option α}
    {x : Option α} {a : α} :
    (if p then (none : Option β).bind f else x) = some a ↔ ¬ p ∧ x = some a := by
  by_cases hp : p <;> simp [hp]

/-- The digits of a port are all that follows the colon: what else could follow them has ended
the authority before. -/
theorem cut_port {after : List Char} (hafter : ∀ c ∈ after, endsAuthority true c = false)
    (h : ¬ (!(Text.cut (!Char.isDigit ·) after).2.isEmpty &&
      (Text.cut (!Char.isDigit ·) after).2.head? != some '\\') = true) :
    Text.cut (!Char.isDigit ·) after = (after, []) := by
  have hall := Text.cut_append (!Char.isDigit ·) after
  rcases hcut : Text.cut (!Char.isDigit ·) after with ⟨digits, _ | ⟨c, rest⟩⟩
  · rw [hcut, List.append_nil] at hall
    rw [← hall]
  · rw [hcut] at h hall
    obtain rfl : c = '\\' := by simpa using h
    have hback := hafter '\\' (hall ▸ List.mem_append_right _ List.mem_cons_self)
    exact absurd hback (by decide)

/-- Host and port are parts of the authority. -/
theorem authority?_eq_some {scheme : String} {a : Authority} {tail : List Char}
    (h : authority? scheme true cs = some (a, tail)) :
    a.user = (divide cs).user.bind user? ∧
      some a.host = HostName.ofDomain? (splitPort false (divide cs).authority).1 ∧
      port? scheme ((splitPort false (divide cs).authority).2.getD []) = some a.port ∧
      tail = (Text.cut (endsAuthority true) cs).2 := by
  unfold authority? at h
  simp only [Option.bind_eq_bind, Option.pure_def, if_true, guarded_eq_some,
    Option.bind_eq_some_iff] at h
  obtain ⟨-, host, hhost, -, hdigits, port, hport, h⟩ := h
  have hafter : ∀ c ∈ (splitPort false (divide cs).authority).2.getD [],
      endsAuthority true c = false := by
    intro c hc
    cases hsplit : (splitPort false (divide cs).authority).2 with
    | none =>
      rw [hsplit] at hc
      cases hc
    | some after =>
      rw [hsplit] at hc
      exact Text.forall_mem_cut_fst _ cs c (mem_of_mem_splitUser (mem_of_mem_splitPort hsplit hc))
  have hcut := cut_port hafter hdigits
  change port? scheme (Text.cut _ ((splitPort false (divide cs).authority).2.getD [])).1 = _ at hport
  change some (_, (Text.cut _ ((splitPort false (divide cs).authority).2.getD [])).2 ++ _) = _ at h
  rw [hcut] at hport h
  cases h
  exact ⟨rfl, hhost.symm, hport, rfl⟩

theorem reads_of_ofSpecial? {scheme : String} {rest : List Char} {u : Url}
    (h : ofSpecial? scheme rest = some u) :
    (divide (rest.dropWhile (isSlash true))).Reads scheme u := by
  unfold ofSpecial? at h
  simp only [Option.bind_eq_bind, Option.pure_def, Option.bind_eq_some_iff] at h
  obtain ⟨⟨a, tail⟩, ha, h⟩ := h
  cases h
  obtain ⟨huser, hhost, hport, rfl⟩ := authority?_eq_some ha
  exact ⟨rfl, huser, hhost, hport, rfl, rfl, rfl⟩

/-- An address whose scheme has domains is read part by part. -/
theorem reads_of_parse? {s scheme : String} {d : Division} {u : Url}
    (hdivide : divide? s = some (scheme, d)) (hspecial : (usualPort scheme).isSome = true)
    (h : parse? s = some u) : d.Reads scheme u := by
  obtain ⟨⟨_, rest⟩, hsplit, hd⟩ := Option.map_eq_some_iff.mp hdivide
  cases hd
  have hfile : ¬ (scheme == "file") = true := by
    intro hfile
    rw [eq_of_beq hfile] at hspecial
    cases hspecial
  unfold parse? at h
  rw [hsplit] at h
  simp only [Option.bind_eq_bind, Option.bind_some, if_neg hfile, if_pos hspecial] at h
  exact reads_of_ofSpecial? h

end Url

end ScanGate
