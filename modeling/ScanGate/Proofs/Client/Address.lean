import Mathlib.Data.List.Basic
import ScanGate.Client
import ScanGate.Host
import ScanGate.Proofs.ProductId
import ScanGate.Proofs.Url.Division
import ScanGate.Proofs.Url.Path

/-! The addresses of a client and what they say. An address is made of a host as it was given
and of the path of an endpoint; it goes to that host and that path exactly when the host has
neither an at sign nor a backslash, which a check of the host does not see. -/
namespace ScanGate

/-! ### Endpoints -/

/-- What a client asks for. -/
inductive Endpoint where
  | report (id : ProductId)
  | pdf (id : ProductId)
  | page (id : ProductId)
  | fetch
  | upload (fileName : String)
  deriving DecidableEq

namespace Endpoint

/-- The segments of the path. -/
def segments : Endpoint → Url.Path
  | report id => ["api".toList, "product".toList, id.text.toList, []]
  | pdf id => ["api".toList, "product".toList, id.text.toList, "pdf-report".toList]
  | page id => ["products".toList, id.text.toList, []]
  | fetch => ["api".toList, "fetch".toList, []]
  | upload fileName =>
    ["api".toList, "upload".toList, Percent.encode Percent.isUnreserved fileName]

def path (e : Endpoint) : List Char := Url.Path.ofSegments e.segments

/-- The ids are ids, and the file is one and no directory. -/
def IsValid : Endpoint → Prop
  | report id => id.IsValid
  | pdf id => id.IsValid
  | page id => id.IsValid
  | fetch => True
  | upload fileName => ∃ path, Path.fileName? path = some fileName

end Endpoint

/-- The address of an endpoint. -/
def Client.address (c : Client) : Endpoint → String
  | .report id => c.reportUrl id
  | .pdf id => c.pdfUrl id
  | .page id => c.productUrl id
  | .fetch => c.fetchUrl
  | .upload fileName => c.uploadUrl fileName

theorem Client.address_eq (c : Client) (e : Endpoint) :
    c.address e = c.base ++ String.ofList e.path := by
  apply String.toList_inj.mp
  cases e with
  | report id =>
    simp [address, reportUrl, Endpoint.path, Endpoint.segments, Url.Path.ofSegments]
  | pdf id => simp [address, pdfUrl, Endpoint.path, Endpoint.segments, Url.Path.ofSegments]
  | page id => simp [address, productUrl, Endpoint.path, Endpoint.segments, Url.Path.ofSegments]
  | fetch => simp [address, fetchUrl, Endpoint.path, Endpoint.segments, Url.Path.ofSegments]
  | upload fileName =>
    simp [address, uploadUrl, Percent.segment, Endpoint.path, Endpoint.segments,
      Url.Path.ofSegments]

/-! ### Plain paths -/

open Url.Path (isPlain isPlain_iff)

/-- An id is a segment that needs no escape and is no dot. -/
theorem ProductId.IsValid.isPlain {id : ProductId} (h : id.IsValid) :
    isPlain id.text.toList = true := by
  have hchar : ∀ c ∈ id.text.toList, c.toNat < 128 ∧ Url.Path.keep c = true ∧ c ≠ '/' ∧
      c ≠ '\\' ∧ c ≠ '.' ∧ c ≠ '%' := by
    intro c hc
    have hallowed := h.allowed c hc
    have hlt := toNat_lt_of_isAllowed hallowed
    have hlooked := Text.forall_ascii (p := fun c => !(isAllowed c) || (Url.Path.keep c &&
      c != '/' && c != '\\' && c != '.' && c != '%')) (by decide) hlt
    simpa [hallowed, hlt, and_assoc] using hlooked
  have hdots : ∀ c ∈ id.text.toList, c ≠ '.' ∧ c ≠ '%' := fun c hc => (hchar c hc).2.2.2.2
  refine isPlain_iff.mpr ⟨fun c hc => ?_, Url.Path.isDot_eq_false hdots,
    Url.Path.isDoubleDot_eq_false hdots⟩
  obtain ⟨hlt, hkeep, hslash, hback, -⟩ := hchar c hc
  exact ⟨hlt, hkeep, hslash, hback⟩

/-- So is an encoded name that is no dot itself. -/
theorem isPlain_encode {s : String} (hdot : s ≠ ".") (hdots : s ≠ "..") :
    isPlain (Percent.encode Percent.isUnreserved s) = true := by
  refine isPlain_iff.mpr ⟨?_, Url.Path.not_isDot_encode hdot, Url.Path.not_isDoubleDot_encode hdots⟩
  refine Percent.forall_mem_encodeBytes (by decide) (by decide) (fun c hlt hkept => ?_) _
  have hlooked := Text.forall_ascii (p := fun c => !(Percent.isUnreserved c) ||
    (Url.Path.keep c && c != '/' && c != '\\')) (by decide) hlt
  simpa [hkept, hlt, and_assoc] using hlooked

/-- The last component of a path to a file is no dot. -/
theorem Path.ne_dots_of_fileName? {path name : String} (h : Path.fileName? path = some name) :
    name ≠ "." ∧ name ≠ ".." := by
  unfold Path.fileName? at h
  split at h
  · split at h
    · cases h
    · next last _ _ hdots =>
      cases h
      simp only [Bool.or_eq_true, beq_iff_eq, not_or] at hdots
      have hchars {t : String} (ht : String.ofList last = t) : last = t.toList := by
        rw [← ht, String.toList_ofList]
      exact ⟨fun hdot => hdots.1 (hchars hdot), fun hdot => hdots.2 (hchars hdot)⟩
  · cases h

/-- The segments of an endpoint are read as they stand. -/
theorem Endpoint.IsValid.isPlain {e : Endpoint} (h : e.IsValid) :
    ∀ s ∈ e.segments, Url.Path.isPlain s = true := by
  cases e with
  | report id =>
    have hid : Url.Path.isPlain id.text.toList = true := ProductId.IsValid.isPlain h
    simp only [segments, List.forall_mem_cons]
    exact ⟨by decide, by decide, hid, by decide, List.forall_mem_nil _⟩
  | pdf id =>
    have hid : Url.Path.isPlain id.text.toList = true := ProductId.IsValid.isPlain h
    simp only [segments, List.forall_mem_cons]
    exact ⟨by decide, by decide, hid, by decide, List.forall_mem_nil _⟩
  | page id =>
    have hid : Url.Path.isPlain id.text.toList = true := ProductId.IsValid.isPlain h
    simp only [segments, List.forall_mem_cons]
    exact ⟨by decide, hid, by decide, List.forall_mem_nil _⟩
  | fetch =>
    simp only [segments, List.forall_mem_cons]
    exact ⟨by decide, by decide, by decide, List.forall_mem_nil _⟩
  | upload fileName =>
    obtain ⟨path, hname⟩ := h
    obtain ⟨hdot, hdots⟩ := Path.ne_dots_of_fileName? hname
    simp only [segments, List.forall_mem_cons]
    exact ⟨by decide, by decide, isPlain_encode hdot hdots, List.forall_mem_nil _⟩

/-- An address is its base and the segments of its endpoint. -/
theorem Client.splitAt_address (c : Client) {e : Endpoint} (he : e.IsValid) :
    Text.splitAt (· == '/') (c.address e).toList =
      Text.splitAt (· == '/') c.base.toList ++ e.segments := by
  have hslash : ∀ s ∈ e.segments, ∀ x ∈ s, (x == '/') = false := fun s hs x hx =>
    beq_eq_false_iff_ne.mpr ((isPlain_iff.mp (he.isPlain s hs)).1 x hx).2.2.1
  rw [address_eq, String.toList_append, String.toList_ofList]
  exact Text.splitAt_append_started (by decide) _ hslash

/-! ### Hosts -/

/-- What a host that is accepted consists of. -/
structure Host.IsName (name : List Char) : Prop where
  nonempty : name ≠ []
  noPath : ∀ c ∈ name, c ≠ '/' ∧ c ≠ '?' ∧ c ≠ '#'
  noBlank : ∀ c ∈ name, Text.isBlank c = false

theorem Host.isName_of_check {host : String} (h : Host.check host = .ok ()) :
    IsName (Text.trimChars host.toList) := by
  unfold Host.check at h
  simp only at h
  split at h
  · cases h
  split at h
  · cases h
  split at h
  · cases h
  split at h
  · cases h
  next hnonempty _ hpath hblank =>
  refine ⟨by simpa using hnonempty, fun c hc => ?_, fun c hc => ?_⟩
  · have hnone : ¬ (c == '/' || c == '?' || c == '#') = true :=
      fun hany => hpath (List.any_eq_true.mpr ⟨c, hc, hany⟩)
    simpa [and_assoc] using hnone
  · exact Bool.eq_false_iff.mpr fun hany => hblank (List.any_eq_true.mpr ⟨c, hc, hany⟩)

/-! ### Where an address goes -/

/-- The address goes to the host and the port that a name says, to this path, and says nothing
more. -/
structure Url.IsAt (u : Url) (name path : List Char) : Prop where
  scheme : u.scheme = "https"
  user : u.user = none
  host : u.host = HostName.ofDomain? (splitPort false name).1
  port : port? "https" ((splitPort false name).2.getD []) = some u.port
  path : u.path = String.ofList path
  query : u.query = none
  fragment : u.fragment = none

namespace Client

variable {host : String} {e : Endpoint} {credentials : Credentials} {insecure : Bool}

theorem address_ofHost (host : String) (credentials : Credentials) (insecure : Bool)
    (e : Endpoint) : (ofHost host credentials insecure).address e =
      String.ofList (Url.secure ++ (Text.trimChars host.toList ++ e.path)) := by
  have hsecure : "https://" = String.ofList Url.secure := rfl
  rw [address_eq, ofHost, Text.trim, hsecure, String.ofList_append, String.ofList_append,
    String.append_assoc]

/-- The path of an endpoint has nothing in it that ends a path. -/
theorem forall_mem_path (he : e.IsValid) :
    ∀ c ∈ e.path, 0x20 < c.toNat ∧ c ≠ '?' ∧ c ≠ '#' := by
  refine Url.Path.forall_mem_ofSegments (by decide) fun s hs c hc => ?_
  obtain ⟨hlt, hkeep, -, -⟩ := (isPlain_iff.mp (he.isPlain s hs)).1 c hc
  have hlooked := Text.forall_ascii (p := fun c => !(Url.Path.keep c) ||
    (decide (0x20 < c.toNat) && c != '?' && c != '#')) (by decide) hlt
  simpa [hkeep, and_assoc] using hlooked

theorem exists_path_eq (e : Endpoint) : ∃ rest, e.path = '/' :: rest := by
  cases e <;> exact ⟨_, rfl⟩

/-- The address is divided behind the slashes that it starts with. -/
theorem divide?_address_eq (hhost : Host.check host = .ok ()) (he : e.IsValid) :
    Url.divide? ((ofHost host credentials insecure).address e) =
      some ("https", Url.divide
        ((Text.trimChars host.toList ++ e.path).dropWhile (Url.isSlash true))) := by
  have hname := Host.isName_of_check hhost
  have hpath := forall_mem_path he
  obtain ⟨rest, hrest⟩ := exists_path_eq e
  rw [address_ofHost]
  refine Url.divide?_secure (fun c hc => ?_) (List.forall_mem_append.mpr ⟨fun c hc => ?_, ?_⟩)
  · rw [← List.append_assoc, hrest, List.getLast?_append_of_ne_nil _ (List.cons_ne_nil _ _),
      ← hrest] at hc
    exact (hpath c (List.mem_of_getLast? hc)).1
  · have hblank := hname.noBlank c hc
    refine ⟨?_, ?_, ?_⟩ <;> (rintro rfl; exact absurd hblank (by decide))
  · intro c hc
    have hbig := (hpath c hc).1
    refine ⟨?_, ?_, ?_⟩ <;> (rintro rfl; exact absurd hbig (by decide))

theorem divide?_address (hhost : Host.check host = .ok ()) (he : e.IsValid)
    (hat : '@' ∉ Text.trimChars host.toList) (hback : '\\' ∉ Text.trimChars host.toList) :
    Url.divide? ((ofHost host credentials insecure).address e) =
      some ("https", { user := none, authority := Text.trimChars host.toList, path := e.path
                       query := none, fragment := none }) := by
  have hname := Host.isName_of_check hhost
  have hpath := forall_mem_path he
  obtain ⟨rest, hrest⟩ := exists_path_eq e
  rw [hrest] at hpath
  rw [divide?_address_eq hhost he, hrest]
  generalize Text.trimChars host.toList = name at *
  have hends : ∀ c ∈ name, Url.endsAuthority true c = false := by
    intro c hc
    have hne : c ≠ '\\' := fun heq => hback (heq ▸ hc)
    simp [Url.endsAuthority, Url.isSlash, hname.noPath c hc, hne]
  have hfirst : ∀ c ∈ (name ++ '/' :: rest).head?, Url.isSlash true c = false := by
    obtain ⟨first, name, rfl⟩ := List.exists_cons_of_ne_nil hname.nonempty
    rintro c hc
    cases hc
    have hfirst := hends first List.mem_cons_self
    simp only [Url.endsAuthority, Bool.or_eq_false_iff] at hfirst
    exact hfirst.1.1
  rw [Text.dropWhile_eq_self hfirst,
    Url.divide_append hends hat fun c hc => (hpath c (List.mem_cons_of_mem _ hc)).2]

theorem absolutePath_path (he : e.IsValid) : Url.absolutePath true e.path = String.ofList e.path :=
  Url.Path.absolutePath_of_plain (by cases e <;> exact List.cons_ne_nil _ _) he.isPlain

/-- An address goes where it should exactly when the host, which has been accepted, has neither
an at sign nor a backslash. Then there is no user, the authority is the host without the blanks
around it, the path is that of the endpoint and nothing follows it; and whatever is read from
the address is read from that host and that path. -/
theorem address_divides_iff (hhost : Host.check host = .ok ()) (he : e.IsValid) :
    (Url.divide? ((ofHost host credentials insecure).address e) =
        some ("https", { user := none, authority := Text.trimChars host.toList, path := e.path
                         query := none, fragment := none }) ↔
      '@' ∉ Text.trimChars host.toList ∧ '\\' ∉ Text.trimChars host.toList) ∧
    ('@' ∉ Text.trimChars host.toList → '\\' ∉ Text.trimChars host.toList →
      ∀ url, Url.parse? ((ofHost host credentials insecure).address e) = some url →
        url.IsAt (Text.trimChars host.toList) e.path) := by
  refine ⟨⟨fun h => ?_, fun ⟨hat, hback⟩ => divide?_address hhost he hat hback⟩,
    fun hat hback url hurl => ?_⟩
  · obtain ⟨⟨scheme, rest⟩, -, hd⟩ := Option.map_eq_some_iff.mp h
    have hd : Url.divide (rest.dropWhile (Url.isSlash true)) = _ := (Prod.ext_iff.mp hd).2
    have hauthority := Url.forall_mem_authority (congrArg Url.Division.user hd)
    rw [hd] at hauthority
    exact ⟨fun hat => (hauthority _ hat).2 rfl,
      fun hback => absurd (hauthority _ hback).1 (by decide)⟩
  · obtain ⟨hscheme, huser, hurlHost, hport, hpath, hquery, hfragment⟩ :=
      Url.reads_of_parse? (divide?_address hhost he hat hback) (by decide) hurl
    exact ⟨hscheme, huser, hurlHost, hport, hpath.trans (absolutePath_path he), hquery, hfragment⟩

/-- The path of an endpoint has a first segment, which a host may swallow, and more behind it. -/
theorem exists_segments_eq (e : Endpoint) : ∃ first next rest,
    e.segments = first :: next :: rest ∧ ∃ c ∈ first, Url.isSlash true c = false := by
  cases e <;> exact ⟨_, _, _, rfl, 'p', by simp, rfl⟩

/-- Whatever host is accepted, the segments behind the first one are the last of every address that
is read. -/
theorem exists_splitAt_path (hhost : Host.check host = .ok ()) (he : e.IsValid) {url : Url}
    (hurl : Url.parse? ((ofHost host credentials insecure).address e) = some url) :
    ∃ before, Text.splitAt (· == '/') url.path.toList = before ++ e.segments.tail := by
  have hreads := Url.reads_of_parse? (divide?_address_eq hhost he) (by decide) hurl
  have hname := Host.isName_of_check hhost
  obtain ⟨first, next, rest, hsegments, c, hc, hslash⟩ := exists_segments_eq e
  have hplain : ∀ s ∈ next :: rest, isPlain s = true := fun s hs =>
    he.isPlain s (hsegments ▸ List.mem_cons_of_mem _ hs)
  have hpath : ∀ c ∈ e.path, c ≠ '?' ∧ c ≠ '#' := fun c hc => (forall_mem_path he c hc).2
  have hpathEq : e.path = '/' :: first ++ Url.Path.ofSegments (next :: rest) := by
    rw [Endpoint.path, hsegments]
    rfl
  rw [hpathEq] at hpath
  obtain ⟨hfirst, hbehind⟩ := List.forall_mem_append.mp hpath
  have hfront : ∀ c ∈ Text.trimChars host.toList ++ '/' :: first, c ≠ '?' ∧ c ≠ '#' :=
    List.forall_mem_append.mpr ⟨fun c hc => (hname.noPath c hc).2, hfirst⟩
  -- The first segment is no slash, so what is dropped does not reach behind it.
  have hdropped : (Text.trimChars host.toList ++ e.path).dropWhile (Url.isSlash true) =
      (Text.trimChars host.toList ++ '/' :: first).dropWhile (Url.isSlash true) ++
        Url.Path.ofSegments (next :: rest) := by
    have hnot : ¬ ((Text.trimChars host.toList ++ '/' :: first).dropWhile
        (Url.isSlash true)).isEmpty = true := by
      rw [List.isEmpty_iff, List.dropWhile_eq_nil_iff]
      intro hall
      have hall := hall c (List.mem_append_right _ (List.mem_cons_of_mem _ hc))
      exact absurd (hslash.symm.trans hall) (by decide)
    rw [hpathEq, ← List.append_assoc, List.dropWhile_append, if_neg hnot]
  obtain ⟨before, hbefore⟩ := Url.exists_divide_path
    (fun c hc => hfront c ((List.dropWhile_sublist (Url.isSlash true)).subset hc))
    (fun c hc => hbehind c (List.mem_cons_of_mem _ hc))
  have hdivided : (Url.divide ((Text.trimChars host.toList ++ e.path).dropWhile
      (Url.isSlash true))).path = before ++ Url.Path.ofSegments (next :: rest) := by
    rw [hdropped]
    exact hbefore
  rw [hreads.path, hdivided, hsegments, List.tail_cons]
  exact Url.Path.exists_absolutePath_append_plain before (List.cons_ne_nil _ _) hplain

def sampleHost : String := " bdba.example.com:8443\n"

def sampleEndpoint : Endpoint := .report ⟨"4711"⟩

theorem isValid_sampleEndpoint : sampleEndpoint.IsValid :=
  ⟨by decide, by decide, List.all_eq_true.mp (by decide)⟩

theorem address_divides_sample :
    (Url.divide? ((ofHost sampleHost (.bearer "t") false).address sampleEndpoint) =
        some ("https", { user := none, authority := "bdba.example.com:8443".toList
                         path := "/api/product/4711/".toList, query := none, fragment := none })) ∧
      ∀ url, Url.parse? ((ofHost sampleHost (.bearer "t") false).address sampleEndpoint) =
        some url → url.IsAt "bdba.example.com:8443".toList "/api/product/4711/".toList := by
  have hname : Text.trimChars sampleHost.toList = "bdba.example.com:8443".toList := by decide
  have hpath : sampleEndpoint.path = "/api/product/4711/".toList := by decide
  rw [← hname, ← hpath]
  obtain ⟨hiff, hat⟩ := address_divides_iff (rfl : Host.check sampleHost = .ok ())
    isValid_sampleEndpoint
  rw [hname] at hiff hat
  exact ⟨hiff.mpr (by decide), hat (by decide) (by decide)⟩

/-- A host with a backslash passes the check, and its end becomes the start of the path; what
stands before an at sign passes too, and another host is asked. -/
theorem other_address :
    Host.check "bdba.example.com\\evil" = .ok () ∧
      Url.parse? ((ofHost "bdba.example.com\\evil" (.bearer "t") false).address sampleEndpoint) =
        some { scheme := "https", host := some "bdba.example.com"
               path := "/evil/api/product/4711/" } ∧
      Host.check "bdba.example.com@evil.example" = .ok () ∧
      Url.parse? ((ofHost "bdba.example.com@evil.example" (.bearer "t") false).address
        sampleEndpoint) =
        some { scheme := "https", user := some ("bdba.example.com", ""), host := some "evil.example"
               path := "/api/product/4711/" } :=
  ⟨rfl, by decide +kernel, rfl, by decide +kernel⟩

end Client

end ScanGate
