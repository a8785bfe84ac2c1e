import ScanGate.Proofs.CommandLine.Commands

/-! What accepted arguments choose. The rules of the grammars are spread over groups, needs and
conflicts, but together they leave one choice each: one kind of credentials, one target of a scan,
one way to name the product of a report, and at most one source of its waivers. So the branches
of a run for arguments without a choice are never taken. -/
namespace ScanGate

namespace CommandLine

variable {g : Grammar} {o : Opt} {given : Given} {key a b : Key} {v : Value} {args : List String}

/-! ### Choices of a command -/

/-- Credentials of one kind: a token, or a user name with its password, and nothing else. -/
inductive Connection.Holds (c : Connection) : Credentials → Prop
  | token {token : String} (htoken : c.token = some token) (husername : c.username = none)
      (hpassword : c.password = none) : Holds c (.bearer token)
  | login {username password : String} (htoken : c.token = none)
      (husername : c.username = some username) (hpassword : c.password = some password) :
      Holds c (.basic username password)

/-- The targets that are given. -/
def ScanOptions.targets (o : ScanOptions) : List Target :=
  (o.file.map Target.file).toList ++ (o.url.map Target.url).toList

/-- The sources that are given. -/
def ReportOptions.sources (o : ReportOptions) : List Source :=
  (o.exceptVariable.map Source.environment).toList ++ (o.exceptUrl.map Source.address).toList ++
    (o.exceptFile.map Source.file).toList

/-- Which product the command is about. -/
def Command.product? : Command → Option Product
  | .scan _ => none
  | .report o => some o.product
  | .reportPdf o => some o.product

theorem Connection.holds_of_credentials {c : Connection} {k : Credentials}
    (h : c.credentials = .ok k) : c.Holds k := by
  unfold credentials Run.credentials at h
  split at h
  · next htoken husername hpassword =>
    cases h
    exact .token htoken husername hpassword
  · next htoken husername hpassword =>
    cases h
    exact .login htoken husername hpassword
  · cases h

/-! ### Products -/

theorem Opt.Makes.isProduct (h : o.Makes v) (hshape : o.shape = .product) :
    ∃ id, v = .product id ∧ ∃ s, ProductId.ofString s = .ok id := by
  cases h with
  | on hswitch => cases hswitch.symm.trans hshape
  | @text s _ hread =>
    simp only [Opt.read, hshape] at hread
    split at hread
    · next id hid => exact ⟨id, (Except.ok.inj hread).symm, s, hid⟩
    · cases hread

theorem Given.isSome_product (hmakes : g.Makes given)
    (hshape : ∀ o ∈ g.options, o.key = key → o.shape = .product) :
    (product? given key).isSome = Progress.has given key := by
  cases h : Progress.has given key with
  | true =>
    obtain ⟨o, ho, hkey, v, hv, hmade⟩ := value_of_has hmakes h
    obtain ⟨id, rfl, -⟩ := hmade.isProduct (hshape o ho hkey)
    rw [product?, hv, Option.isSome_some]
  | false => rw [product?, value_of_not_has h, Option.isSome_none]

/-- A product is given as the text of its id. -/
theorem Given.exists_read_of_product {id : ProductId} (hmakes : g.Makes given)
    (hshape : ∀ o ∈ g.options, o.key = key → o.shape = .product)
    (h : product? given key = some id) : ∃ s, ProductId.ofString s = .ok id := by
  have hhas : Progress.has given key = true := by
    rw [← isSome_product hmakes hshape, h, Option.isSome_some]
  obtain ⟨o, ho, hkey, v, hv, hmade⟩ := value_of_has hmakes hhas
  obtain ⟨id', rfl, hread⟩ := hmade.isProduct (hshape o ho hkey)
  rw [product?, hv] at h
  exact Option.some.inj h ▸ hread

/-! ### Rules of a grammar -/

namespace Grammar

theorem of_parse (h : g.parse args = .ok given) : g.Makes given ∧ g.Admits given := by
  obtain ⟨p, hread, hcheck, rfl⟩ := parse_eq_ok_iff.mp h
  exact ⟨makes_of_reads (reads_of_read hread), check_eq_ok_iff.mp hcheck⟩

theorem Admits.not_both (h : g.Admits given) (hexcludes : g.excludes a b = true) :
    (Progress.has given a && Progress.has given b) = false := by
  rw [Bool.and_eq_false_imp]
  intro ha
  refine Bool.eq_false_iff.mpr fun hb => ?_
  rw [h.compatible a b ha hb] at hexcludes
  cases hexcludes

/-- Of a required group of two that exclude each other exactly one is given. -/
theorem Admits.one_of_two (h : g.Admits given) (hrequired : [a, b] ∈ g.required)
    (hexcludes : g.excludes a b = true) :
    Progress.has given a = !Progress.has given b := by
  have hboth := h.not_both hexcludes
  obtain ⟨key, hkey, hhas⟩ := h.complete _ hrequired
  obtain rfl | rfl : key = a ∨ key = b := by simpa using hkey
  · rw [hhas, Bool.true_and] at hboth
    rw [hhas, hboth, Bool.not_false]
  · rw [hhas, Bool.and_true] at hboth
    rw [hhas, hboth, Bool.not_true]

end Grammar

theorem parse_cases {c : Command} (h : parse args = .ok c) : ∃ rest given,
    (scanGrammar.parse rest = .ok given ∧ c = .scan (scanOptions given)) ∨
    (reportGrammar.parse rest = .ok given ∧ c = .report (reportOptions given)) ∨
    (pdfGrammar.parse rest = .ok given ∧ c = .reportPdf (pdfOptions given)) := by
  obtain ⟨name, rest, f, given, -, hform, hparse, rfl⟩ := parse_eq_ok h
  refine ⟨rest, given, ?_⟩
  unfold form? at hform
  split at hform <;> cases hform
  · exact .inl ⟨hparse, rfl⟩
  · exact .inr (.inl ⟨hparse, rfl⟩)
  · exact .inr (.inr ⟨hparse, rfl⟩)

/-! ### Scans -/

theorem ScanOptions.exists_target {o : ScanOptions} (h : o.file.isSome = !o.url.isSome) :
    ∃ target, o.targets = [target] := by
  unfold targets
  cases hfile : o.file with
  | some path =>
    cases hurl : o.url with
    | some address => simp [hfile, hurl] at h
    | none => exact ⟨.file path, rfl⟩
  | none =>
    cases hurl : o.url with
    | some address => exact ⟨.url address, rfl⟩
    | none => simp [hfile, hurl] at h

theorem target_of_parse (h : scanGrammar.parse args = .ok given) :
    ∃ target, (scanOptions given).targets = [target] := by
  obtain ⟨hmakes, hadmits⟩ := Grammar.of_parse h
  have hfile : (scanOptions given).file.isSome = Progress.has given .uploadFile :=
    Given.isSome_text hmakes (by decide)
  have hurl : (scanOptions given).url.isSome = Progress.has given .uploadUrl :=
    Given.isSome_text hmakes (by decide)
  refine ScanOptions.exists_target ?_
  rw [hfile, hurl]
  exact hadmits.one_of_two (by decide) (by decide)

/-! ### Reports -/

theorem product_of_admits (hmakes : g.Makes given) (hadmits : g.Admits given)
    (hshape : ∀ o ∈ g.options, o.key = .productId → o.shape = .product)
    (hrequired : [Key.productId, .savedId] ∈ g.required)
    (hexcludes : g.excludes .productId .savedId = true) :
    (Given.product given).id.isSome = !(Given.product given).saved :=
  (Given.isSome_product hmakes hshape).trans (hadmits.one_of_two hrequired hexcludes)

theorem product_of_parse {c : Command} {product : Product} (h : parse args = .ok c)
    (hproduct : c.product? = some product) : product.id.isSome = !product.saved := by
  obtain ⟨rest, given, ⟨-, rfl⟩ | ⟨hparse, rfl⟩ | ⟨hparse, rfl⟩⟩ := parse_cases h
  · cases hproduct
  · cases hproduct
    obtain ⟨hmakes, hadmits⟩ := Grammar.of_parse hparse
    exact product_of_admits hmakes hadmits (by decide) (by decide) (by decide)
  · cases hproduct
    obtain ⟨hmakes, hadmits⟩ := Grammar.of_parse hparse
    exact product_of_admits hmakes hadmits (by decide) (by decide) (by decide)

theorem exists_read_of_parse {c : Command} {product : Product} {id : ProductId}
    (h : parse args = .ok c) (hproduct : c.product? = some product) (hid : product.id = some id) :
    ∃ s, ProductId.ofString s = .ok id := by
  obtain ⟨rest, given, ⟨-, rfl⟩ | ⟨hparse, rfl⟩ | ⟨hparse, rfl⟩⟩ := parse_cases h
  · cases hproduct
  · cases hproduct
    exact Given.exists_read_of_product (Grammar.of_parse hparse).1 (by decide) hid
  · cases hproduct
    exact Given.exists_read_of_product (Grammar.of_parse hparse).1 (by decide) hid

theorem ReportOptions.length_sources {o : ReportOptions}
    (hvariable : (o.exceptVariable.isSome && o.exceptUrl.isSome) = false)
    (hfile : (o.exceptVariable.isSome && o.exceptFile.isSome) = false)
    (hurl : (o.exceptUrl.isSome && o.exceptFile.isSome) = false) : o.sources.length ≤ 1 := by
  unfold sources
  generalize o.exceptVariable = name at *
  generalize o.exceptUrl = url at *
  generalize o.exceptFile = path at *
  cases name <;> cases url <;> cases path <;> simp_all

theorem sources_of_parse (h : reportGrammar.parse args = .ok given) :
    (reportOptions given).sources.length ≤ 1 := by
  obtain ⟨hmakes, hadmits⟩ := Grammar.of_parse h
  have hvariable : (reportOptions given).exceptVariable.isSome =
      Progress.has given .exceptVariable := Given.isSome_text hmakes (by decide)
  have hurl : (reportOptions given).exceptUrl.isSome = Progress.has given .exceptUrl :=
    Given.isSome_text hmakes (by decide)
  have hfile : (reportOptions given).exceptFile.isSome = Progress.has given .exceptFile :=
    Given.isSome_text hmakes (by decide)
  apply ReportOptions.length_sources
  · rw [hvariable, hurl]
    exact hadmits.not_both (by decide)
  · rw [hvariable, hfile]
    exact hadmits.not_both (by decide)
  · rw [hurl, hfile]
    exact hadmits.not_both (by decide)

/-- A single source is the one that is chosen, whatever the settings name. -/
theorem ReportOptions.choose_eq {o : ReportOptions} (h : o.sources.length ≤ 1) {source : Source}
    (hsource : source ∈ o.sources) (configured : Option String) :
    Source.choose o.exceptVariable o.exceptUrl o.exceptFile configured = source := by
  unfold sources at h hsource
  generalize o.exceptVariable = name at *
  generalize o.exceptUrl = url at *
  generalize o.exceptFile = path at *
  cases name <;> cases url <;> cases path <;> simp_all [Source.choose]

end CommandLine

/-! ### Runs -/

namespace Run

open CommandLine

variable {m : Type → Type} [Monad m]

/-- A scan of the target, with no branch for a missing one. -/
def scanOf (s : System m) (colored : Bool) (o : ScanOptions) (target : Target) :
    ExceptT Failure m ExitCode := do
  let say := tell s colored
  let (settings, client) ← prepare s say o.connection
  let group := (o.group <|> settings.group).getD ""
  let id ← Submission.run (client.service s) (IdFile.save s IdFile.path) say
    { target, group, keep := o.saveId }
  s.output ("Product ID: " ++ id.text ++ "\n")
  return .success

theorem scan_eq_scanOf [LawfulMonad m] {o : ScanOptions} {target : Target}
    (h : o.targets = [target]) (s : System m) (colored : Bool) :
    scan s colored o = scanOf s colored o target := by
  unfold ScanOptions.targets at h
  unfold scan scanOf
  refine bind_congr fun p => ?_
  cases hfile : o.file with
  | some path =>
    rw [hfile] at h
    obtain ⟨rfl, -⟩ := List.cons.inj h
    exact pure_bind _ _
  | none =>
    cases hurl : o.url with
    | some address =>
      rw [hfile, hurl] at h
      obtain ⟨rfl, -⟩ := List.cons.inj h
      exact pure_bind _ _
    | none =>
      rw [hfile, hurl] at h
      cases h

end Run

namespace CommandLine

/-- Arguments that are accepted choose: one kind of credentials, one target or one product, and
one source of waivers at most. So the failures for missing credentials and for a missing
target do not occur, and no source that is given is passed over for another one. -/
theorem accepted_chooses {c : Command} (h : parse args = .ok c) :
    (∃ k, c.connection.Holds k ∧ Run.credentials c.connection.token c.connection.username
      c.connection.password = .ok k) ∧
    (∀ o, c = .scan o → ∃ target, o.targets = [target] ∧
      ∀ {m : Type → Type} [Monad m] [LawfulMonad m] (s : System m) (colored : Bool),
        Run.scan s colored o = Run.scanOf s colored o target) ∧
    (∀ product, c.product? = some product → product.id.isSome = !product.saved) ∧
    ∀ o, c = .report o → o.sources.length ≤ 1 ∧
      ∀ source ∈ o.sources, ∀ configured,
        Source.choose o.exceptVariable o.exceptUrl o.exceptFile configured = source := by
  obtain ⟨k, hk⟩ := credentials_of_accepted h
  refine ⟨⟨k, Connection.holds_of_credentials hk, hk⟩, ?_, fun product => product_of_parse h, ?_⟩
  · rintro o rfl
    obtain ⟨rest, given, ⟨hparse, ho⟩ | ⟨-, ho⟩ | ⟨-, ho⟩⟩ := parse_cases h
    · cases ho
      obtain ⟨target, htarget⟩ := target_of_parse hparse
      exact ⟨target, htarget, fun s colored => Run.scan_eq_scanOf htarget s colored⟩
    · cases ho
    · cases ho
  · rintro o rfl
    obtain ⟨rest, given, ⟨-, ho⟩ | ⟨hparse, ho⟩ | ⟨-, ho⟩⟩ := parse_cases h
    · cases ho
    · cases ho
      have hlength := sources_of_parse hparse
      exact ⟨hlength, fun source hsource => ReportOptions.choose_eq hlength hsource⟩
    · cases ho

/-- Options in an order of their own, one of them with its value in the next argument. -/
def sampleArguments : List String :=
  ["report", "--except-url=https://waivers.test/", "--password=p", "--scan-file", "--username", "u"]

def sampleOptions : ReportOptions where
  connection := { username := some "u", password := some "p" }
  product := { saved := true }
  exceptUrl := some "https://waivers.test/"

theorem accepted_chooses_sample : parse sampleArguments = .ok (.report sampleOptions) ∧
    (∃ k, sampleOptions.connection.Holds k) ∧
    Source.choose none (some "https://waivers.test/") none (some "waivers.json") =
      .address "https://waivers.test/" := by
  have hparse : parse sampleArguments = .ok (.report sampleOptions) := rfl
  obtain ⟨⟨k, hk, -⟩, -, -, hsources⟩ := accepted_chooses hparse
  exact ⟨hparse, ⟨k, hk⟩, (hsources _ rfl).2 _ (by decide) _⟩

end CommandLine

end ScanGate
