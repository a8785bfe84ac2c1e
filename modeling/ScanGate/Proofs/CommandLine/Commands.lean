import ScanGate.Proofs.CommandLine.Credentials
import ScanGate.Run

/-! Commands that differ in the credentials alone. Accepted arguments make a command with
credentials of one kind, a token or a user name with a password. If the arguments are the same
but for the credentials, so are the commands. -/
namespace ScanGate.CommandLine

variable {g : Grammar} {o : Opt} {v : Value} {args : List String}

/-- The connection without credentials. -/
def Connection.anonymous (c : Connection) : Connection :=
  { c with username := none, password := none, token := none }

/-- The credentials that a connection has, if they are of one kind. -/
def Connection.credentials (c : Connection) : Except Failure Credentials :=
  Run.credentials c.token c.username c.password

/-! ### Options given -/

namespace Given

variable {given : Given} {key : Key}

theorem value_anonymous (h : isSecret key = false) :
    value? given.anonymous key = value? given key := by
  simp only [value?, anonymous, List.find?_filter]
  congr 2
  funext x
  by_cases hx : x.1 = key <;> simp [hx, h]

theorem text_anonymous (h : isSecret key = false) :
    text? given.anonymous key = text? given key := by
  rw [text?, value_anonymous h, text?]

theorem product_anonymous (h : isSecret key = false) :
    product? given.anonymous key = product? given key := by
  rw [product?, value_anonymous h, product?]

theorem threshold_anonymous (h : isSecret key = false) :
    threshold? given.anonymous key = threshold? given key := by
  rw [threshold?, value_anonymous h, threshold?]

theorem format_anonymous (h : isSecret key = false) :
    format? given.anonymous key = format? given key := by
  rw [format?, value_anonymous h, format?]

theorem value_of_not_has (h : Progress.has given key = false) : value? given key = none := by
  have hnone : given.find? (·.1 == key) = none :=
    List.find?_eq_none.mpr (List.any_eq_false.mp h)
  rw [value?, hnone, Option.map_none]

theorem text_of_not_has (h : Progress.has given key = false) : text? given key = none := by
  rw [text?, value_of_not_has h]

theorem text_anonymous_secret (h : isSecret key = true) : text? given.anonymous key = none :=
  text_of_not_has (has_anonymous_secret h)

end Given

/-! ### Options given and their values -/

/-- Values of these shapes are texts. -/
def Shape.isText : Shape → Bool
  | .text => true
  | .path => true
  | .host => true
  | _ => false

theorem Opt.Makes.isText (h : o.Makes v) (hshape : o.shape.isText = true) : ∃ s, v = .text s := by
  cases h with
  | on hswitch =>
    rw [hswitch] at hshape
    cases hshape
  | text hread =>
    unfold Opt.read at hread
    split at hread
    · split at hread
      · cases hread
      · exact ⟨_, (Except.ok.inj hread).symm⟩
    · split at hread
      · exact ⟨_, (Except.ok.inj hread).symm⟩
      · cases hread
    · next hproduct => rw [hproduct] at hshape; cases hshape
    · next hthreshold => rw [hthreshold] at hshape; cases hshape
    · next hformat => rw [hformat] at hshape; cases hshape
    · exact ⟨_, (Except.ok.inj hread).symm⟩

namespace Given

variable {given : Given} {key : Key}

/-- The value of an option that is given was made by an option with its key. -/
theorem value_of_has (hmakes : g.Makes given) (h : Progress.has given key = true) :
    ∃ o ∈ g.options, o.key = key ∧ ∃ v, value? given key = some v ∧ o.Makes v := by
  obtain ⟨x, hx⟩ := Option.isSome_iff_exists.mp (List.find?_isSome.mpr (List.any_eq_true.mp h))
  have hkey : x.1 = key := by simpa using List.find?_some hx
  obtain ⟨o, ho, hok, hv⟩ := hmakes x (List.mem_of_find?_eq_some hx)
  exact ⟨o, ho, hok.trans hkey, x.2, by rw [value?, hx, Option.map_some], hv⟩

theorem isSome_text (hmakes : g.Makes given)
    (hshape : ∀ o ∈ g.options, o.key = key → o.shape.isText = true) :
    (text? given key).isSome = Progress.has given key := by
  cases h : Progress.has given key with
  | true =>
    obtain ⟨o, ho, hkey, v, hv, hmade⟩ := value_of_has hmakes h
    obtain ⟨s, rfl⟩ := hmade.isText (hshape o ho hkey)
    rw [text?, hv, Option.isSome_some]
  | false => rw [text?, value_of_not_has h, Option.isSome_none]

end Given

/-! ### What is given for credentials -/

/-- Credentials are given as text. -/
theorem text_of_secret {given : Given} {key : Key} (hg : g.Discreet) (hmakes : g.Makes given)
    (hsecret : isSecret key = true) (h : Progress.has given key = true) :
    ∃ s, Given.text? given key = some s := by
  have hshape (o : Opt) (ho : o ∈ g.options) (hkey : o.key = key) : o.shape.isText = true := by
    rw [(hg.plain o ho (hkey ▸ hsecret)).1]
    rfl
  exact Option.isSome_iff_exists.mp ((Given.isSome_text hmakes hshape).trans h)

/-- Accepted arguments have credentials of one kind. -/
theorem credentials_of_parse {given : Given} (hg : (withConnection g).Discreet)
    (h : (withConnection g).parse args = .ok given) :
    ∃ k, (Given.connection given).credentials = .ok k := by
  obtain ⟨p, hread, hcheck, rfl⟩ := Grammar.parse_eq_ok_iff.mp h
  have hmakes := Grammar.makes_of_reads (Grammar.reads_of_read hread)
  obtain ⟨hcompatible, hcomplete, hprovided⟩ := Grammar.check_eq_ok_iff.mp hcheck
  simp only [Given.connection, Connection.credentials]
  cases htoken : Progress.has p.given .token with
  | true =>
    have hother {key : Key} (hkey : (withConnection g).excludes .token key = true) :
        Given.text? p.given key = none := by
      refine Given.text_of_not_has (Bool.eq_false_iff.mpr fun hhas => ?_)
      cases hkey.symm.trans (hcompatible .token key htoken hhas)
    obtain ⟨token, htokenText⟩ := text_of_secret hg hmakes rfl htoken
    rw [htokenText, hother (by simp [Grammar.excludes, withConnection]),
      hother (by simp [Grammar.excludes, withConnection])]
    exact ⟨_, rfl⟩
  | false =>
    have husername : Progress.has p.given .username = true := by
      obtain ⟨key, hkey, hhas⟩ := hcomplete [.username, .token] (List.mem_cons_self ..)
      obtain rfl | rfl : key = .username ∨ key = .token := by simpa using hkey
      · exact hhas
      · cases htoken.symm.trans hhas
    have hpassword := hprovided .username .password (List.mem_cons_self ..) husername
    obtain ⟨username, husernameText⟩ := text_of_secret hg hmakes rfl husername
    obtain ⟨password, hpasswordText⟩ := text_of_secret hg hmakes rfl hpassword
    rw [Given.text_of_not_has htoken, husernameText, hpasswordText]
    exact ⟨_, rfl⟩

/-! ### Commands -/

namespace Command

def connection : Command → Connection
  | .scan o => o.connection
  | .report o => o.connection
  | .reportPdf o => o.connection

/-- The command without credentials. -/
def anonymous : Command → Command
  | .scan o => .scan { o with connection := o.connection.anonymous }
  | .report o => .report { o with connection := o.connection.anonymous }
  | .reportPdf o => .reportPdf { o with connection := o.connection.anonymous }

theorem connection_anonymous (c : Command) :
    c.anonymous.connection = c.connection.anonymous := by
  cases c <;> rfl

end Command

/-- How a command is read: the grammar of its arguments, and the command that options make. -/
structure Form where
  grammar : Grammar
  command : Given → Command

def scanForm : Form := ⟨scanGrammar, fun given => .scan (scanOptions given)⟩

def reportForm : Form := ⟨reportGrammar, fun given => .report (reportOptions given)⟩

def pdfForm : Form := ⟨pdfGrammar, fun given => .reportPdf (pdfOptions given)⟩

/-- A form that treats credentials as all of them do. -/
structure Form.Sound (f : Form) : Prop where
  discreet : f.grammar.Discreet
  grammar : ∃ g, f.grammar = withConnection g
  connection : ∀ given, (f.command given).connection = Given.connection given
  anonymous : ∀ given, (f.command given).anonymous = f.command (Given.anonymous given)

theorem connection_anonymous (given : Given) :
    (Given.connection given).anonymous = Given.connection given.anonymous := by
  simp (disch := decide) only [Connection.anonymous, Given.connection, Given.text_anonymous,
    Given.text_anonymous_secret, Given.has_anonymous]

theorem product_anonymous (given : Given) :
    Given.product given.anonymous = Given.product given := by
  simp (disch := decide) only [Given.product, Given.product_anonymous, Given.has_anonymous]

theorem sound_scanForm : scanForm.Sound where
  discreet := ⟨by decide, by decide⟩
  grammar := ⟨_, rfl⟩
  connection _ := rfl
  anonymous given := by
    simp (disch := decide) only [scanForm, Command.anonymous, scanOptions, connection_anonymous,
      Given.text_anonymous, Given.has_anonymous]

theorem sound_reportForm : reportForm.Sound where
  discreet := ⟨by decide, by decide⟩
  grammar := ⟨_, rfl⟩
  connection _ := rfl
  anonymous given := by
    simp (disch := decide) only [reportForm, Command.anonymous, reportOptions,
      connection_anonymous, product_anonymous, Given.text_anonymous, Given.threshold_anonymous,
      Given.format_anonymous, Given.has_anonymous]

theorem sound_pdfForm : pdfForm.Sound where
  discreet := ⟨by decide, by decide⟩
  grammar := ⟨_, rfl⟩
  connection _ := rfl
  anonymous given := by
    simp (disch := decide) only [pdfForm, Command.anonymous, pdfOptions, connection_anonymous,
      product_anonymous, Given.text_anonymous]

def form? : String → Option Form
  | "scan" => some scanForm
  | "report" => some reportForm
  | "report-pdf" => some pdfForm
  | _ => none

theorem sound_of_form {name : String} {f : Form} (h : form? name = some f) : f.Sound := by
  unfold form? at h
  split at h
  · cases h
    exact sound_scanForm
  · cases h
    exact sound_reportForm
  · cases h
    exact sound_pdfForm
  · cases h

theorem parse_eq_ok {c : Command} (h : parse args = .ok c) : ∃ name rest f given,
    args = name :: rest ∧ form? name = some f ∧ f.grammar.parse rest = .ok given ∧
      f.command given = c := by
  have hmap {g : Grammar} {rest : List String} {command : Given → Command}
      (h : (g.parse rest).map command = .ok c) :
      ∃ given, g.parse rest = .ok given ∧ command given = c := by
    cases hparse : g.parse rest with
    | error _ =>
      rw [hparse] at h
      cases h
    | ok given =>
      rw [hparse] at h
      exact ⟨given, rfl, Except.ok.inj h⟩
  have hstop (x : Except Problem Progress) : parse.stop x ≠ .ok c := by
    cases x <;> nofun
  unfold parse at h
  split at h
  · cases h
  · next name rest =>
    split at h
    · obtain ⟨given, hparse, hc⟩ := hmap h
      exact ⟨_, rest, scanForm, given, rfl, rfl, hparse, hc⟩
    · obtain ⟨given, hparse, hc⟩ := hmap h
      exact ⟨_, rest, reportForm, given, rfl, rfl, hparse, hc⟩
    · obtain ⟨given, hparse, hc⟩ := hmap h
      exact ⟨_, rest, pdfForm, given, rfl, rfl, hparse, hc⟩
    · cases h
    · exfalso
      split at h
      · split at h <;> cases h
      · exact hstop _ h
      · exact hstop _ h
      · cases h

theorem withoutCredentials_form {name : String} {f : Form} (h : form? name = some f) :
    withoutCredentials (name :: args) = name :: withoutCredentials args := by
  have hname : isCredentialOption name = false := by
    unfold form? at h
    split at h
    · decide
    · decide
    · decide
    · cases h
  rw [withoutCredentials, skipCredentials, hname, if_neg Bool.false_ne_true]
  rfl

/-- Accepted arguments that differ in the credentials alone are for commands that differ in the
credentials alone. -/
theorem anonymous_eq_of_withoutCredentials {args' : List String} {c c' : Command}
    (h : parse args = .ok c) (h' : parse args' = .ok c')
    (heq : withoutCredentials args = withoutCredentials args') : c.anonymous = c'.anonymous := by
  obtain ⟨name, rest, f, given, rfl, hform, hparse, rfl⟩ := parse_eq_ok h
  obtain ⟨name', rest', f', given', rfl, hform', hparse', rfl⟩ := parse_eq_ok h'
  rw [withoutCredentials_form hform, withoutCredentials_form hform', List.cons.injEq] at heq
  obtain ⟨rfl, hrest⟩ := heq
  cases hform.symm.trans hform'
  have hsound := sound_of_form hform
  rw [hsound.anonymous, hsound.anonymous,
    Grammar.anonymous_eq_of_parse hsound.discreet hparse hparse' hrest]

/-- A command that is accepted has credentials. -/
theorem credentials_of_accepted {c : Command} (h : parse args = .ok c) :
    ∃ k, c.connection.credentials = .ok k := by
  obtain ⟨_, rest, f, given, _, hform, hparse, rfl⟩ := parse_eq_ok h
  have hsound := sound_of_form hform
  obtain ⟨g, hg⟩ := hsound.grammar
  have hdiscreet := hsound.discreet
  rw [hsound.connection]
  rw [hg] at hdiscreet hparse
  exact credentials_of_parse hdiscreet hparse

end ScanGate.CommandLine
