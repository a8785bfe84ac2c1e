import ScanGate.Proofs.Client.Address
import ScanGate.Proofs.Files.Path
import ScanGate.Proofs.Gate.Ends

/-! The address that a file is uploaded to. It ends with a single segment that stands for the name
of the file, the last component of its path: the name is what the segment says when it is decoded,
so files of different names have different addresses. -/
namespace ScanGate

namespace Percent

variable {s t : String}

/-- This segment of a path stands for this name. -/
structure Names (segment : List Char) (name : String) : Prop where
  nonempty : segment ≠ []
  escaped : Escaped segment
  noSlash : '/' ∉ segment
  notDot : segment ≠ ['.']
  notDots : segment ≠ ['.', '.']
  decoded : decodeBytes segment = Text.encodeUtf8 name
  text : unescape? (String.ofList segment) = some name

theorem encode_inj : encode isUnreserved s = encode isUnreserved t ↔ s = t := by
  refine ⟨fun h => Text.toUTF8_toList_inj.mp ?_, fun h => h ▸ rfl⟩
  have hbytes := congrArg decodeBytes h
  rwa [Url.Path.decodeBytes_encode, Url.Path.decodeBytes_encode] at hbytes

theorem unescape?_encode (s : String) :
    unescape? (String.ofList (encode isUnreserved s)) = some s := by
  rw [unescape?, String.toList_ofList, Url.Path.decodeBytes_encode, Text.encodeUtf8, Text.toList_eq]
  exact Text.ofUtf8?_toUTF8 s

theorem slash_notMem_encode (s : String) : '/' ∉ encode isUnreserved s := by
  have hall : ∀ c ∈ encode isUnreserved s, c ≠ '/' := by
    refine forall_mem_encodeBytes (by decide) (by decide) ?_ _
    rintro c - hkept rfl
    exact absurd hkept (by decide)
  exact fun hmem => hall _ hmem rfl

/-- What needs no escape is the encoding of no other name. -/
theorem encode_ne {cs : List Char} (h : ∀ c ∈ cs, c.toNat < 128 ∧ isUnreserved c = true)
    (hs : s.toList ≠ cs) : encode isUnreserved s ≠ cs := by
  intro heq
  have hname := encode_inj.mp (heq.trans (encode_of_forall h).symm)
  rw [hname, String.toList_ofList] at hs
  exact hs rfl

theorem isUnreserved_point : '.'.toNat < 128 ∧ isUnreserved '.' = true := by decide

/-- The last component of a path is named by its encoding. -/
theorem names_encode {path name : String} (h : Path.IsLastName path name) :
    Names (encode isUnreserved name) name where
  nonempty := encode_ne (by simp) h.nonempty
  escaped := escaped_encodeBytes _
  noSlash := slash_notMem_encode name
  notDot := encode_ne (List.forall_mem_singleton.mpr isUnreserved_point) h.notDot
  notDots := encode_ne (List.forall_mem_cons.mpr
    ⟨isUnreserved_point, List.forall_mem_singleton.mpr isUnreserved_point⟩) h.notDots
  decoded := Url.Path.decodeBytes_encode name
  text := unescape?_encode name

end Percent

namespace Client

open Gate (Gives gives_bind)

variable {σ : Type} {s : System (StateM σ)} {path name : String} {content : Content} {w w' : σ}

/-- A file is uploaded under the name of its path. -/
theorem fileName?_of_gives (h : Gives (openUpload s path) w (name, content) w') :
    Path.fileName? path = some name := by
  obtain ⟨size, w₁, -, h⟩ := gives_bind.mp h
  obtain ⟨_, w₂, -, h⟩ := gives_bind.mp h
  cases hname : Path.fileName? path with
  | none =>
    rw [hname] at h
    exact absurd h Gate.not_gives_throw
  | some found =>
    rw [hname] at h
    obtain ⟨read, w₃, -, h⟩ := gives_bind.mp h
    cases read with
    | ok content' =>
      obtain ⟨hpair, -⟩ := Gate.gives_pure.mp h
      rw [(Prod.mk.inj hpair).1]
    | error e => exact absurd h Gate.not_gives_throw

theorem uploadUrl_inj {c : Client} {other : String} :
    c.uploadUrl other = c.uploadUrl name ↔ other = name := by
  rw [uploadUrl, uploadUrl, String.append_right_inj, Percent.segment, Percent.segment,
    String.ofList_inj, Percent.encode_inj]

/-- The addresses that a file of this name is uploaded to end with this segment: as they are
written, and as they are read, whatever host has been accepted. -/
structure UploadsTo (name : String) (segment : List Char) : Prop where
  written (c : Client) : c.uploadUrl name = c.base ++ "/api/upload/" ++ String.ofList segment
  segments (c : Client) : Text.splitAt (· == '/') (c.uploadUrl name).toList =
    Text.splitAt (· == '/') c.base.toList ++ ["api".toList, "upload".toList, segment]
  read {host : String} (hhost : Host.check host = .ok ()) (credentials : Credentials)
    (insecure : Bool) (url : Url) :
    Url.parse? ((ofHost host credentials insecure).uploadUrl name) = some url → ∃ before,
      Text.splitAt (· == '/') url.path.toList = before ++ ["upload".toList, segment]

theorem uploadsTo_encode (h : Path.fileName? path = some name) :
    UploadsTo name (Percent.encode Percent.isUnreserved name) where
  written _ := rfl
  segments c := splitAt_address c (e := .upload name) ⟨path, h⟩
  read hhost _ _ _ hurl := exists_splitAt_path (e := .upload name) hhost ⟨path, h⟩ hurl

/-- The file of every path that can be opened for an upload is named by the addresses it is
uploaded to. Its name is the last component of the path; an address ends with a segment that stands
for the name, and is the address of no file of another name. -/
theorem uploadUrl_names (h : Gives (openUpload s path) w (name, content) w') :
    Path.IsLastName path name ∧
    (∃ segment, Percent.Names segment name ∧ UploadsTo name segment) ∧
    ∀ (c : Client) (other : String), c.uploadUrl other = c.uploadUrl name ↔ other = name := by
  have hname := fileName?_of_gives h
  have hlast := Path.fileName?_eq_some_iff.mp hname
  exact ⟨hlast, ⟨_, Percent.names_encode hlast, uploadsTo_encode hname⟩, fun _ _ => uploadUrl_inj⟩

/-- A file whose name needs escapes. -/
def uploadWorld : World where
  tree := { entries := [(["build"], .directory), (["build", "50% #1.bin"], .file (.zeros 3))] }

theorem uploadUrl_names_escaped :
    Gives (openUpload World.system "build//50% #1.bin") uploadWorld ("50% #1.bin", .zeros 3)
        uploadWorld ∧
      Path.IsLastName "build//50% #1.bin" "50% #1.bin" ∧
      (ofHost "bdba.example.com" (.bearer "t") false).uploadUrl "50% #1.bin" =
        "https://bdba.example.com/api/upload/50%25%20%231.bin" ∧
      ∃ segment, Percent.Names segment "50% #1.bin" ∧ UploadsTo "50% #1.bin" segment := by
  have h : Gives (openUpload World.system "build//50% #1.bin") uploadWorld
      ("50% #1.bin", .zeros 3) uploadWorld := rfl
  obtain ⟨hname, hsegment, -⟩ := uploadUrl_names h
  exact ⟨h, hname, by decide +kernel, hsegment⟩

end Client

end ScanGate
