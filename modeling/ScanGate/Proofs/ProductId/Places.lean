import ScanGate.Proofs.Client.Address
import ScanGate.Proofs.CommandLine.Choices
import ScanGate.Proofs.Files.Path
import ScanGate.Proofs.Gate.Ends
import ScanGate.Proofs.ProductId.Reading
import ScanGate.Proofs.Run.HandOver

/-! Where product ids come from and where they are put. However an id has come about, it has
nothing in it that means something in an address or in a path. So it stands there as a segment of
its own, whatever host is asked, and tells the address or the file from those of other ids. -/
namespace ScanGate.ProductId

open Gate (Gives gives_bind)
open Text (splitAt)

variable {σ : Type} {id id' : ProductId}

/-! ### Where ids come from -/

/-- An id that the gate works with: read from a text, named by the arguments, kept in a file, or
assigned by the service. -/
inductive Arises : ProductId → Prop
  | read {s : String} {id : ProductId} (h : ofString s = .ok id) : Arises id
  | named {args : List String} {c : CommandLine.Command} {product : CommandLine.Product}
      {id : ProductId} (h : CommandLine.parse args = .ok c)
      (hproduct : c.product? = some product) (hid : product.id = some id) : Arises id
  | kept {σ : Type} {s : System (StateM σ)} {path : String} {w w' : σ} {id : ProductId}
      (h : Gives (IdFile.load s path) w id w') : Arises id
  | assigned {σ : Type} {c : Client} {s : System (StateM σ)} {target : Target} {group : String}
      {w w' : σ} {id : ProductId} (h : Gives (c.submit s target group) w id w') : Arises id

theorem exists_read_of_load {s : System (StateM σ)} {path : String} {w w' : σ}
    (h : Gives (IdFile.load s path) w id w') : ∃ content, ofString content = .ok id := by
  obtain ⟨content, w₁, -, h⟩ := gives_bind.mp h
  refine ⟨content, ?_⟩
  cases hread : ofString content with
  | ok id' =>
    rw [hread] at h
    rw [(Gate.gives_pure.mp h).1]
  | error failure =>
    rw [hread] at h
    exact absurd h Gate.not_gives_throw

theorem exists_parse_of_submit {c : Client} {s : System (StateM σ)} {target : Target}
    {group : String} {w w' : σ} (h : Gives (c.submit s target group) w id w') :
    ∃ body, parse body = .ok id := by
  obtain ⟨headers, w₁, -, h⟩ := gives_bind.mp h
  cases target with
  | file path =>
    obtain ⟨upload, w₂, -, h⟩ := gives_bind.mp h
    obtain ⟨body, w₃, -, h⟩ := gives_bind.mp h
    exact ⟨_, (Gate.gives_except.mp h).1⟩
  | url address =>
    obtain ⟨-, h⟩ := Gate.gives_provided.mp h
    obtain ⟨body, w₂, -, h⟩ := gives_bind.mp h
    exact ⟨_, (Gate.gives_except.mp h).1⟩

theorem Arises.isValid (h : Arises id) : id.IsValid := by
  cases h with
  | read h => exact (ofString_eq_ok_iff.mp h).2
  | named h hproduct hid =>
    obtain ⟨s, hs⟩ := CommandLine.exists_read_of_parse h hproduct hid
    exact (ofString_eq_ok_iff.mp hs).2
  | kept h =>
    obtain ⟨content, hcontent⟩ := exists_read_of_load h
    exact (ofString_eq_ok_iff.mp hcontent).2
  | assigned h =>
    obtain ⟨body, hbody⟩ := exists_parse_of_submit h
    exact isValid_of_parse hbody

/-! ### What is in an id -/

/-- What separates the parts of an address or of a path, and what starts an escape or an ending. -/
def delimiters : List Char :=
  [':', '/', '?', '#', '[', ']', '@', '!', '$', '&', '\'', '(', ')', '*', '+', ',', ';', '=', '\\',
    '.', '%']

/-- An id is some text, and nothing in it is taken for anything else. -/
structure IsSafe (id : ProductId) : Prop where
  nonempty : id.text ≠ ""
  noDelimiter : ∀ c ∈ id.text.toList, c ∉ delimiters

theorem IsValid.isSafe (h : id.IsValid) : id.IsSafe where
  nonempty hempty := h.nonempty (by rw [hempty]; rfl)
  noDelimiter c hc := by
    have hallowed := h.allowed c hc
    have hlooked := Text.forall_ascii (p := fun c => !(isAllowed c) || !(delimiters.contains c))
      (by decide) (toNat_lt_of_isAllowed hallowed)
    simpa [hallowed] using hlooked

/-! ### Where ids are put -/

/-- In the addresses of a client for this host the id is one segment, also in the path that is read
from them. -/
structure IsSegment (id : ProductId) (c : Client) (host : List Char) : Prop where
  report : splitAt (· == '/') (c.reportUrl id).toList =
    ["https:".toList, [], host, "api".toList, "product".toList, id.text.toList, []]
  pdf : splitAt (· == '/') (c.pdfUrl id).toList =
    ["https:".toList, [], host, "api".toList, "product".toList, id.text.toList,
      "pdf-report".toList]
  reportPath (url : Url) : Url.parse? (c.reportUrl id) = some url → ∃ before,
    splitAt (· == '/') url.path.toList = before ++ ["product".toList, id.text.toList, []]
  pdfPath (url : Url) : Url.parse? (c.pdfUrl id) = some url → ∃ before,
    splitAt (· == '/') url.path.toList =
      before ++ ["product".toList, id.text.toList, "pdf-report".toList]

theorem splitAt_base {host : String} (hhost : Host.check host = .ok ())
    (credentials : Credentials) (insecure : Bool) :
    splitAt (· == '/') (Client.ofHost host credentials insecure).base.toList =
      ["https:".toList, [], Text.trimChars host.toList] := by
  have hname : ∀ c ∈ Text.trimChars host.toList, (c == '/') = false := fun c hc =>
    beq_eq_false_iff_ne.mpr ((Host.isName_of_check hhost).noPath c hc).1
  have hparts : ∀ t ∈ [[], Text.trimChars host.toList], ∀ c ∈ t, (c == '/') = false :=
    List.forall_mem_cons.mpr ⟨List.forall_mem_nil _, List.forall_mem_singleton.mpr hname⟩
  have hbase : (Client.ofHost host credentials insecure).base.toList =
      "https:".toList ++ [[], Text.trimChars host.toList].flatMap ('/' :: ·) := by
    simp [Client.ofHost, Text.trim]
  rw [hbase]
  exact Text.splitAt_append_started (by decide) _ hparts

theorem IsValid.isSegment (h : id.IsValid) {host : String} (hhost : Host.check host = .ok ())
    (credentials : Credentials) (insecure : Bool) :
    id.IsSegment (.ofHost host credentials insecure) (Text.trimChars host.toList) := by
  have hbase := splitAt_base hhost credentials insecure
  have hreport := Client.splitAt_address (.ofHost host credentials insecure) (e := .report id) h
  have hpdf := Client.splitAt_address (.ofHost host credentials insecure) (e := .pdf id) h
  rw [hbase] at hreport hpdf
  exact {
    report := hreport
    pdf := hpdf
    reportPath := fun url hurl => Client.exists_splitAt_path (e := .report id) hhost h hurl
    pdfPath := fun url hurl => Client.exists_splitAt_path (e := .pdf id) hhost h hurl }

/-- The name of a file is a single component, with the id between fixed texts. -/
theorem IsValid.isLastName_pdfName (h : id.IsValid) :
    Path.pieces id.pdfName.toList = [id.pdfName.toList] ∧
      Path.IsLastName id.pdfName id.pdfName := by
  have hchars : id.pdfName.toList = "bdba_scan_".toList ++ id.text.toList ++ ".pdf".toList := by
    rw [pdfName, String.toList_append, String.toList_append]
  have hslash : '/' ∉ id.pdfName.toList := by
    rw [hchars, List.mem_append, List.mem_append, not_or, not_or]
    exact ⟨⟨by decide, fun hc => h.isSafe.noDelimiter _ hc (by decide)⟩, by decide⟩
  refine ⟨Path.pieces_of_notMem hslash, Path.isLastName_self hslash ?_ ?_ ?_⟩ <;> simp [hchars]

theorem reportUrl_inj {c : Client} : c.reportUrl id = c.reportUrl id' ↔ id = id' := by
  obtain ⟨text⟩ := id
  rw [Client.reportUrl, Client.reportUrl, String.append_left_inj, String.append_right_inj, mk.injEq]

theorem pdfUrl_inj {c : Client} : c.pdfUrl id = c.pdfUrl id' ↔ id = id' := by
  obtain ⟨text⟩ := id
  rw [Client.pdfUrl, Client.pdfUrl, String.append_left_inj, String.append_right_inj, mk.injEq]

theorem pdfName_inj : id.pdfName = id'.pdfName ↔ id = id' := by
  obtain ⟨text⟩ := id
  rw [pdfName, pdfName, String.append_left_inj, String.append_right_inj, mk.injEq]

/-- An id that is put somewhere is the same when it is read again, has nothing in it that means
something there, is one segment of every address and part of one file name. -/
structure IsPlaced (id : ProductId) : Prop where
  again : ofString id.text = .ok id
  safe : id.IsSafe
  segment {host : String} (hhost : Host.check host = .ok ()) (credentials : Credentials)
    (insecure : Bool) :
    id.IsSegment (.ofHost host credentials insecure) (Text.trimChars host.toList)
  pieces : Path.pieces id.pdfName.toList = [id.pdfName.toList]
  name : Path.IsLastName id.pdfName id.pdfName

theorem IsValid.isPlaced (h : id.IsValid) : id.IsPlaced where
  again := h.ofString_text
  safe := h.isSafe
  segment := h.isSegment
  pieces := h.isLastName_pdfName.1
  name := h.isLastName_pdfName.2

/-- A text is read as the id that is left without the blanks around it, and as nothing if that is
no id by its bytes. Wherever an id comes from, it is the same when it is read again, safe in
addresses and paths and a segment of its own there; and for one client the addresses of two ids,
and the names of their files, are the same only when the ids are. -/
theorem canonical_and_placed :
    (∀ (s : String) (id : ProductId), ofString s = .ok id ↔ IsRead s id) ∧
    (∀ id : ProductId, Arises id → id.IsPlaced) ∧
    ∀ (c : Client) (id id' : ProductId), (c.reportUrl id = c.reportUrl id' ↔ id = id') ∧
      (c.pdfUrl id = c.pdfUrl id' ↔ id = id') ∧ (id.pdfName = id'.pdfName ↔ id = id') :=
  ⟨fun _ _ => ofString_eq_ok_iff_isRead, fun _ h => h.isValid.isPlaced,
    fun _ _ _ => ⟨reportUrl_inj, pdfUrl_inj, pdfName_inj⟩⟩

/-- An id is kept with blanks around it. -/
def keptWorld : World where
  tree := { entries := [(["scan.id"], .file (.bytes "\t4711-a_B\n".toUTF8))] }

theorem canonical_and_placed_kept :
    ofString "\t4711-a_B\n" = .ok ⟨"4711-a_B"⟩ ∧ IsRead "\t4711-a_B\n" ⟨"4711-a_B"⟩ ∧
      (∀ id, ofString "47/11" ≠ .ok id) ∧
      Gives (IdFile.load World.system IdFile.path) keptWorld ⟨"4711-a_B"⟩ keptWorld ∧
      IsPlaced ⟨"4711-a_B"⟩ := by
  obtain ⟨hread, hplaced, -⟩ := canonical_and_placed
  have hkept : Gives (IdFile.load World.system IdFile.path) keptWorld ⟨"4711-a_B"⟩ keptWorld := rfl
  have hok : ofString "\t4711-a_B\n" = .ok ⟨"4711-a_B"⟩ := rfl
  have hnot : ofString "47/11" = .error (.invalid ("Product id '47/11' contains invalid " ++
    "characters. Only ASCII letters, digits, hyphens and underscores are allowed.")) := rfl
  refine ⟨hok, (hread _ _).mp hok, fun id h => ?_, hkept, hplaced _ (.kept hkept)⟩
  rw [hnot] at h
  cases h

end ScanGate.ProductId
