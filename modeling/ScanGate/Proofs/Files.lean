import Mathlib.Data.List.MinMax
import ScanGate.Files

/-! A file that is written is read back, whatever links lead to it, and it is the entry at its
path unless a link is there. The walk that looked for a place to write and the ones that look
for the file pass the same directories and links, since the new file stands where there was a
file or nothing; only who looks for the entry stops at a link at the end. All have fuel to
spare: every step takes one name off, and a link that is followed adds no more names than its
target is long, so the walk does not depend on the fuel it is given. Before a file is written its
directory and its path are checked. -/
namespace ScanGate

namespace Path

theorem length_pieces_le (cs : List Char) : (pieces cs).length ≤ cs.length + 1 := by
  fun_induction pieces cs with
  | case1 => exact Nat.le_refl 1
  | case2 cs ih => simpa using ih
  | case3 c cs _ _ _ => simp
  | case4 c cs _ p ps h ih =>
    rw [h] at ih
    simp only [List.length_cons] at ih ⊢
    omega

theorem length_steps_le (path : String) : (steps path).length ≤ path.length + 1 := by
  rw [steps, List.length_map, ← String.length_toList]
  exact length_pieces_le _

end Path

namespace Tree

variable {t : Tree} {purpose : Purpose} {links fuel : Nat} {here way way' : Way}
  {names : List String} {entry : Entry} {loc : Location}

/-! ### Fuel -/

theorem detour_le_longestDetour (h : t.entry? way = some entry) :
    entry.detour ≤ t.longestDetour := by
  unfold entry? at h
  split at h
  · cases h
    exact Nat.zero_le _
  · obtain ⟨e, hfind, rfl⟩ := Option.map_eq_some_iff.mp h
    exact List.le_max_of_le' 0 (List.mem_map_of_mem (List.mem_of_find?_eq_some hfind)) le_rfl

theorem lt_walkFuel (t : Tree) (path : String) :
    (Path.steps path).length + maxLinks * t.longestDetour < t.walkFuel path := by
  have hsteps := Path.length_steps_le path
  rw [walkFuel, Nat.succ_mul]
  omega

/-! ### A new entry -/

/-- Entries in place of others are found where those were. -/
theorem find?_replace (entries : List (Way × Entry)) :
    (entries.map fun e => if e.1 == way then (way, entry) else e).find? (·.1 == way') =
      (entries.find? (·.1 == way')).map fun e => if e.1 == way then (way, entry) else e := by
  rw [List.find?_map]
  congr 2
  funext e
  by_cases h : e.1 = way
  · simp [h]
  · simp [h]

theorem entry?_insert_self (t : Tree) (hw : way ≠ []) (entry : Entry) :
    Tree.entry? (t.insert way entry) way = some entry := by
  have hroot : ¬ way.isEmpty = true := by simpa using hw
  rw [Tree.entry?, if_neg hroot, insert]
  split
  · next hany =>
    obtain ⟨e, he⟩ : ∃ e, t.entries.find? (·.1 == way) = some e := by
      rw [← Option.isSome_iff_exists, List.find?_isSome]
      simpa using hany
    have hway := List.find?_some he
    simp only [find?_replace, he, Option.map_some, hway, if_true]
  · next hany =>
    have hnone : t.entries.find? (·.1 == way) = none := by
      rw [List.find?_eq_none]
      exact fun e he hway => hany (List.any_eq_true.mpr ⟨e, he, hway⟩)
    simp [List.find?_append, hnone]

theorem entry?_insert_ne (t : Tree) (h : way' ≠ way) (entry : Entry) :
    Tree.entry? (t.insert way entry) way' = t.entry? way' := by
  unfold entry?
  split
  · rfl
  · rw [insert]
    split
    · simp only [find?_replace, Option.map_map]
      cases he : t.entries.find? (·.1 == way') with
      | none => rfl
      | some e =>
        have hway : e.1 = way' := by simpa using List.find?_some he
        have hne : ¬ (e.1 == way) = true := by simpa [hway] using h
        simp only [Option.map_some, Function.comp_apply, hne]
        rfl
    · have hne : ¬ (way == way') = true := by simpa using Ne.symm h
      simp [List.find?_append, hne]

/-! ### Walks -/

/-- A name to be looked up, and not only a way of writing the path. -/
structure IsName (purpose : Purpose) (step : String) (rest : List String) : Prop where
  plain : ¬ (step = "" ∨ step = ".")
  down : step ≠ ".."
  ending : ¬ (purpose = .creation ∧ !rest.isEmpty ∧ rest.all (·.isEmpty))
  short : ¬ maxName < step.utf8ByteSize

theorem IsName.of_creation {step : String} {rest : List String} (hp : purpose ≠ .creation)
    (h : IsName .creation step rest) : IsName purpose step rest :=
  { h with ending := fun hslash => hp hslash.1 }

/-- Where the names lead from a directory. Links are followed, but for one at the end when the
entry itself is looked for. -/
inductive Leads (t : Tree) (purpose : Purpose) : Nat → Way → List String → Location → Prop
  | stop {links : Nat} {here : Way} : Leads t purpose links here [] (.found here .directory)
  | stay {links : Nat} {here : Way} {step : String} {rest : List String} {loc : Location}
      (hstep : step = "" ∨ step = ".") (h : Leads t purpose links here rest loc) :
      Leads t purpose links here (step :: rest) loc
  | up {links : Nat} {here : Way} {rest : List String} {loc : Location}
      (h : Leads t purpose links here.dropLast rest loc) :
      Leads t purpose links here (".." :: rest) loc
  | vacant {links : Nat} {here : Way} {step : String} (hname : IsName purpose step [])
      (he : t.entry? (here ++ [step]) = none) :
      Leads t purpose links here [step] (.vacant (here ++ [step]))
  | file {links : Nat} {here : Way} {step : String} {content : Content}
      (hname : IsName purpose step []) (he : t.entry? (here ++ [step]) = some (.file content)) :
      Leads t purpose links here [step] (.found (here ++ [step]) (.file content))
  | enter {links : Nat} {here : Way} {step : String} {rest : List String} {loc : Location}
      (hname : IsName purpose step rest) (he : t.entry? (here ++ [step]) = some .directory)
      (h : Leads t purpose links (here ++ [step]) rest loc) :
      Leads t purpose links here (step :: rest) loc
  | halt {links : Nat} {here : Way} {step target : String} (hname : IsName purpose step [])
      (he : t.entry? (here ++ [step]) = some (.link target)) (hend : purpose = .entry) :
      Leads t purpose links here [step] (.found (here ++ [step]) (.link target))
  | link {links : Nat} {here : Way} {step target : String} {rest : List String} {loc : Location}
      (hname : IsName purpose step rest) (he : t.entry? (here ++ [step]) = some (.link target))
      (hgoes : ¬ (rest.isEmpty ∧ purpose = .entry)) (htarget : target.isEmpty = false)
      (h : Leads t purpose links (if Path.isAbsolute target then [] else here)
        (Path.steps target ++ rest) loc) :
      Leads t purpose (links + 1) here (step :: rest) loc

/-- A walk that ends is led to its end. -/
theorem leads_of_walk (h : t.walk purpose links fuel here names = .ok loc) :
    Leads t purpose links here names loc := by
  induction fuel generalizing links here names with
  | zero => cases h
  | succ fuel ih =>
    cases names with
    | nil =>
      cases h
      exact .stop
    | cons step rest =>
      simp only [walk] at h
      split at h
      · next hstep => exact .stay hstep (ih h)
      split at h
      · next hup =>
        subst hup
        exact .up (ih h)
      split at h
      · cases h
      split at h
      · cases h
      next hplain hdown hending hshort =>
      have hname : IsName purpose step rest := ⟨hplain, hdown, hending, hshort⟩
      cases he : t.entry? (here ++ [step]) with
      | none =>
        simp only [he] at h
        cases rest with
        | nil =>
          cases h
          exact .vacant hname he
        | cons => cases h
      | some entry =>
        simp only [he] at h
        cases entry with
        | directory => exact .enter hname he (ih h)
        | file content =>
          cases rest with
          | nil =>
            cases h
            exact .file hname he
          | cons => cases h
        | link target =>
          simp only at h
          split at h
          · next hend =>
            obtain ⟨hrest, hp⟩ := hend
            obtain rfl := List.isEmpty_iff.mp hrest
            cases h
            exact .halt hname he hp
          next hgoes =>
          cases links with
          | zero => cases h
          | succ links =>
            simp only at h
            split at h
            · cases h
            · next htarget => exact .link hname he hgoes (by simpa using htarget) (ih h)

/-- What the names lead to is found, with fuel for the names and for every link. -/
theorem Leads.walk_eq (h : Leads t purpose links here names loc)
    (hfuel : names.length + links * t.longestDetour < fuel) :
    t.walk purpose links fuel here names = .ok loc := by
  induction h generalizing fuel with
  | stop =>
    obtain _ | fuel := fuel
    · omega
    · rfl
  | stay hstep _ ih =>
    obtain _ | fuel := fuel
    · omega
    rw [List.length_cons] at hfuel
    rw [walk, if_pos hstep, ih (by omega)]
  | up _ ih =>
    obtain _ | fuel := fuel
    · omega
    rw [List.length_cons] at hfuel
    rw [walk, if_neg (by decide), if_pos rfl, ih (by omega)]
  | vacant hname he =>
    obtain _ | fuel := fuel
    · omega
    rw [walk, if_neg hname.plain, if_neg hname.down, if_neg hname.ending, if_neg hname.short]
    simp only [he]
    rfl
  | file hname he =>
    obtain _ | fuel := fuel
    · omega
    rw [walk, if_neg hname.plain, if_neg hname.down, if_neg hname.ending, if_neg hname.short]
    simp only [he]
    rfl
  | enter hname he _ ih =>
    obtain _ | fuel := fuel
    · omega
    rw [List.length_cons] at hfuel
    rw [walk, if_neg hname.plain, if_neg hname.down, if_neg hname.ending, if_neg hname.short]
    simp only [he]
    exact ih (by omega)
  | halt hname he hend =>
    obtain _ | fuel := fuel
    · omega
    rw [walk, if_neg hname.plain, if_neg hname.down, if_neg hname.ending, if_neg hname.short]
    simp only [he]
    exact if_pos ⟨rfl, hend⟩
  | @link links _ _ target _ _ hname he hgoes htarget _ ih =>
    obtain _ | fuel := fuel
    · omega
    have hlength : target.length + 2 ≤ t.longestDetour := detour_le_longestDetour he
    have hsteps := Path.length_steps_le target
    rw [List.length_cons, Nat.succ_mul] at hfuel
    rw [walk, if_neg hname.plain, if_neg hname.down, if_neg hname.ending, if_neg hname.short]
    simp only [he, if_neg hgoes, htarget, Bool.false_eq_true, if_false]
    exact ih (by rw [List.length_append]; omega)

/-- Where a walk may end, there is a file or nothing. -/
theorem Leads.end_eq (h : Leads t purpose links here names loc)
    (hloc : loc = .vacant way ∨ ∃ old, loc = .found way (.file old)) :
    way ≠ [] ∧ (t.entry? way = none ∨ ∃ old, t.entry? way = some (.file old)) := by
  induction h with
  | stop => simp at hloc
  | stay _ _ ih => exact ih hloc
  | up _ ih => exact ih hloc
  | vacant _ he =>
    obtain h | ⟨_, h⟩ := hloc <;> cases h
    exact ⟨by simp, .inl he⟩
  | file _ he =>
    obtain h | ⟨_, h⟩ := hloc <;> cases h
    exact ⟨by simp, .inr ⟨_, he⟩⟩
  | enter _ _ _ ih => exact ih hloc
  | halt => simp at hloc
  | link _ _ _ _ _ ih => exact ih hloc

/-- What is on the way stays when a file is put where there was a file or nothing. -/
theorem entry?_insert_of_end {content : Content} {e : Entry}
    (hend : t.entry? way = none ∨ ∃ old, t.entry? way = some (.file old))
    (he : t.entry? way' = some e) (hfile : ∀ old, e ≠ .file old) :
    Tree.entry? (t.insert way (.file content)) way' = some e := by
  rw [entry?_insert_ne, he]
  rintro rfl
  obtain hnone | ⟨old, hold⟩ := hend
  · rw [he] at hnone
    cases hnone
  · rw [he] at hold
    cases hold
    exact hfile old rfl

/-- A file that is put at the end of a walk is what the same names lead to afterwards, also for
another purpose that stops at the same links. -/
theorem Leads.insert {purpose' : Purpose} {content : Content}
    (hname : ∀ {step rest}, IsName purpose step rest → IsName purpose' step rest)
    (hentry : purpose' = .entry → purpose = .entry) (h : Leads t purpose links here names loc)
    (hloc : loc = .vacant way ∨ ∃ old, loc = .found way (.file old)) :
    Leads (t.insert way (.file content)) purpose' links here names
      (.found way (.file content)) := by
  obtain ⟨hroot, hend⟩ := h.end_eq hloc
  have hself := entry?_insert_self t hroot (.file content)
  have hpass {way' : Way} {e : Entry} (he : t.entry? way' = some e)
      (hfile : ∀ old, e ≠ .file old) : Tree.entry? (t.insert way (.file content)) way' = some e :=
    entry?_insert_of_end hend he hfile
  clear hend hroot
  induction h with
  | stop => simp at hloc
  | stay hstep _ ih => exact .stay hstep (ih hloc)
  | up _ ih => exact .up (ih hloc)
  | vacant hn he =>
    obtain h | ⟨_, h⟩ := hloc <;> cases h
    exact .file (hname hn) hself
  | file hn he =>
    obtain h | ⟨_, h⟩ := hloc <;> cases h
    exact .file (hname hn) hself
  | enter hn he _ ih => exact .enter (hname hn) (hpass he (by simp)) (ih hloc)
  | halt => simp at hloc
  | link hn he hgoes htarget _ ih =>
    exact .link (hname hn) (hpass he (by simp)) (fun hstop => hgoes ⟨hstop.1, hentry hstop.2⟩)
      htarget (ih hloc)

/-- A link at the end stays there. -/
theorem Leads.insert_link {content : Content} {target : String}
    (hend : t.entry? way = none ∨ ∃ old, t.entry? way = some (.file old))
    (h : Leads t purpose links here names loc) (hloc : loc = .found way' (.link target)) :
    Leads (t.insert way (.file content)) purpose links here names loc := by
  induction h with
  | stop => simp at hloc
  | stay hstep _ ih => exact .stay hstep (ih hloc)
  | up _ ih => exact .up (ih hloc)
  | vacant | file => simp at hloc
  | enter hn he _ ih => exact .enter hn (entry?_insert_of_end hend he (by simp)) (ih hloc)
  | halt hn he hp => exact .halt hn (entry?_insert_of_end hend he (by simp)) hp
  | link hn he hgoes htarget _ ih =>
    exact .link hn (entry?_insert_of_end hend he (by simp)) hgoes htarget (ih hloc)

/-- Who looks for the entry comes to the same place as who wants to write, or to a link. -/
theorem Leads.toEntry (h : Leads t .creation links here names loc) :
    Leads t .entry links here names loc ∨
      ∃ way target, Leads t .entry links here names (.found way (.link target)) := by
  induction h with
  | stop => exact .inl .stop
  | stay hstep _ ih =>
    exact ih.imp (.stay hstep) fun ⟨way, target, h⟩ => ⟨way, target, .stay hstep h⟩
  | up _ ih => exact ih.imp .up fun ⟨way, target, h⟩ => ⟨way, target, .up h⟩
  | vacant hn he => exact .inl (.vacant (hn.of_creation (by decide)) he)
  | file hn he => exact .inl (.file (hn.of_creation (by decide)) he)
  | enter hn he _ ih =>
    have hn : IsName .entry _ _ := hn.of_creation (by decide)
    exact ih.imp (.enter hn he) fun ⟨way, target, h⟩ => ⟨way, target, .enter hn he h⟩
  | halt _ _ hp => cases hp
  | @link _ _ _ _ rest _ hn he _ htarget _ ih =>
    have hn : IsName .entry _ _ := hn.of_creation (by decide)
    cases rest with
    | nil => exact .inr ⟨_, _, .halt hn he rfl⟩
    | cons name rest =>
      have hgoes : ¬ ((name :: rest).isEmpty ∧ Purpose.entry = .entry) := by simp
      exact ih.imp (.link hn he hgoes htarget) fun ⟨way, target, h⟩ =>
        ⟨way, target, .link hn he hgoes htarget h⟩

/-! ### Paths -/

/-- A path that is looked up at all. -/
structure IsPath (path : String) : Prop where
  text : ¬ path.toList.any (· == Char.ofNat 0) = true
  nonempty : ¬ path.isEmpty = true
  short : ¬ maxPath < path.utf8ByteSize

/-- Where the names of a path are looked up from. -/
def start (t : Tree) (path : String) : Way := if Path.isAbsolute path then [] else t.current

theorem current_insert (t : Tree) (way : Way) (entry : Entry) :
    (t.insert way entry).current = t.current := by
  unfold Tree.insert
  split <;> rfl

theorem start_insert (t : Tree) (way : Way) (entry : Entry) (path : String) :
    start (t.insert way entry) path = t.start path := by
  rw [start, start, current_insert]

theorem locate_eq_ok_iff {path : String} : t.locate purpose path = .ok loc ↔
    IsPath path ∧ Leads t purpose maxLinks (t.start path) (Path.steps path) loc := by
  constructor
  · intro h
    unfold locate at h
    split at h
    · cases h
    split at h
    · cases h
    split at h
    · cases h
    next hnul hempty hlong => exact ⟨⟨hnul, hempty, hlong⟩, leads_of_walk h⟩
  · rintro ⟨⟨hnul, hempty, hlong⟩, h⟩
    rw [locate, if_neg hnul, if_neg hempty, if_neg hlong]
    exact h.walk_eq (lt_walkFuel t path)

/-! ### Writing and reading -/

/-- A file is written where there was a file or nothing. -/
theorem exists_locate_of_write {t' : Tree} {path : String} {data : ByteArray}
    (h : t.write path data = .ok t') : ∃ way loc, t.locate .creation path = .ok loc ∧
      (loc = .vacant way ∨ ∃ old, loc = .found way (.file old)) ∧
      t' = t.insert way (.file (.bytes data)) := by
  unfold write at h
  split at h
  · next hloc =>
    cases h
    exact ⟨_, _, hloc, .inr ⟨_, rfl⟩, rfl⟩
  · cases h
  · next hloc =>
    cases h
    exact ⟨_, _, hloc, .inl rfl, rfl⟩
  · cases h

/-- What is written at a path is read there, and nothing else. -/
theorem read_of_write {t' : Tree} {path : String} {data : ByteArray}
    (h : t.write path data = .ok t') : t'.read path = .ok (.bytes data) := by
  obtain ⟨way, loc, hlocate, hloc, rfl⟩ := exists_locate_of_write h
  obtain ⟨hpath, hleads⟩ := locate_eq_ok_iff.mp hlocate
  have hlocate' : (t.insert way (.file (.bytes data))).locate .target path =
      .ok (.found way (.file (.bytes data))) := by
    rw [locate_eq_ok_iff, start_insert]
    exact ⟨hpath, hleads.insert (IsName.of_creation (by decide)) (by simp) hloc⟩
  rw [read, hlocate']

theorem inspect_eq_ok_iff {path : String} : t.inspect path = .ok entry ↔
    ∃ way, t.locate .entry path = .ok (.found way entry) := by
  unfold inspect
  split <;> simp_all

/-- Where no link is at a path, what is written there is a file in the place of a file or of
nothing, and the path leads straight to it. -/
theorem exists_place_of_write {t' : Tree} {path : String} {data : ByteArray}
    (h : t.write path data = .ok t') (hplain : ∀ target, t.inspect path ≠ .ok (.link target)) :
    ∃ way, t' = t.insert way (.file (.bytes data)) ∧ way ≠ [] ∧
      (t.entry? way = none ∨ ∃ old, t.entry? way = some (.file old)) ∧
      t'.locate .entry path = .ok (.found way (.file (.bytes data))) := by
  obtain ⟨way, loc, hlocate, hloc, rfl⟩ := exists_locate_of_write h
  obtain ⟨hpath, hleads⟩ := locate_eq_ok_iff.mp hlocate
  obtain ⟨hroot, hend⟩ := hleads.end_eq hloc
  refine ⟨way, rfl, hroot, hend, ?_⟩
  rw [locate_eq_ok_iff, start_insert]
  obtain hentry | ⟨way', target, hlink⟩ := hleads.toEntry
  · exact ⟨hpath, hentry.insert id id hloc⟩
  · exact absurd (inspect_eq_ok_iff.mpr ⟨way', locate_eq_ok_iff.mpr ⟨hpath, hlink⟩⟩)
      (hplain target)

/-- What is written at a path is the entry there, unless a link is there: then the link stays. -/
theorem inspect_of_write {t' : Tree} {path : String} {data : ByteArray}
    (h : t.write path data = .ok t') :
    ((∀ target, t.inspect path ≠ .ok (.link target)) →
      t'.inspect path = .ok (.file (.bytes data))) ∧
    ∀ target, t.inspect path = .ok (.link target) → t'.inspect path = .ok (.link target) := by
  constructor
  · intro hplain
    obtain ⟨way, -, -, -, hlocate⟩ := exists_place_of_write h hplain
    exact inspect_eq_ok_iff.mpr ⟨way, hlocate⟩
  · obtain ⟨way, loc, hlocate, hloc, rfl⟩ := exists_locate_of_write h
    obtain ⟨-, hleads⟩ := locate_eq_ok_iff.mp hlocate
    simp only [inspect_eq_ok_iff, locate_eq_ok_iff, start_insert]
    rintro target ⟨way', hpath, hlink⟩
    exact ⟨way', hpath, hlink.insert_link (hleads.end_eq hloc).2 rfl⟩

end Tree

/-! ### The steps of writing -/

namespace Files

variable {m : Type → Type} [Monad m]

/-- The directory of a file has to be there. -/
def checkParent (s : System m) (path : String) : ExceptT Failure m Unit := do
  match Path.parent? path with
  | some parent =>
    if parent ≠ "" ∧ !(← s.exists? parent) then
      throw (.unwritable path ("Parent directory does not exist: " ++ parent))
  | none => pure ()

/-- A path may not be a link. -/
def checkPlain (s : System m) (path : String) : ExceptT Failure m Unit := do
  match ← s.inspect path with
  | .ok .link =>
    throw (.unwritable path ("Security: Output path is a symbolic link. " ++
      "For security reasons, writing to symbolic links is not allowed."))
  | _ => pure ()

/-- What cannot be written is a failure. -/
def put (s : System m) (path : String) (data : ByteArray) : ExceptT Failure m Unit := do
  match ← s.write path data with
  | .ok () => pure ()
  | .error e => throw (.unwritable path e.text)

/-- Writing is these steps, one after the other. -/
theorem writeBytes_eq [LawfulMonad m] (s : System m) (path : String) (data : ByteArray) :
    writeBytes s path data =
      checkParent s path >>= fun _ => checkPlain s path >>= fun _ => put s path data := by
  have hpass : put s path data = pure () >>= fun _ => put s path data := by rw [pure_bind]
  have hstop (failure : Failure) (f g : Unit → ExceptT Failure m Unit) :
      (throw failure >>= f) = throw failure >>= g := by
    rw [ExceptT.bind_throw, ExceptT.bind_throw]
  unfold writeBytes checkParent checkPlain
  cases Path.parent? path with
  | none =>
    rw [pure_bind, bind_assoc]
    refine bind_congr fun r => ?_
    match r with
    | .ok .link => exact hstop _ _ _
    | .error _ | .ok (.file _) | .ok .directory | .ok .other => exact hpass
  | some parent =>
    simp only [bind_assoc]
    refine bind_congr fun there => ?_
    split
    · exact hstop _ _ _
    · rw [pure_bind]
      refine bind_congr fun r => ?_
      match r with
      | .ok .link => exact hstop _ _ _
      | .error _ | .ok (.file _) | .ok .directory | .ok .other => exact hpass

end Files

end ScanGate
