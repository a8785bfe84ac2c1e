import ScanGate.Failure
import ScanGate.Text.Blank

/-! Product ids. An id is put into request paths, so it holds ASCII letters,
digits, hyphens and underscores only, at least one and at most 64 of them. -/
namespace ScanGate

/-- The characters an id may hold. -/
def ProductId.isAllowed (c : Char) : Bool :=
  c.isAlphanum || c == '-' || c == '_'

structure ProductId where
  text : String
  deriving DecidableEq

namespace ProductId

/-- The most bytes an id may have. -/
def maxBytes : Nat := 64

/-- Blanks around the id are not part of it. -/
def ofString (s : String) : Except Failure ProductId :=
  let id := Text.trim s
  if id.isEmpty then .error (.invalid "Product id cannot be empty")
  else if maxBytes < id.utf8ByteSize then
    .error (.invalid ("Product id is too long (" ++ toString id.utf8ByteSize ++
      " bytes). Maximum allowed: " ++ toString maxBytes ++ " bytes"))
  else if id.toList.all isAllowed then .ok ⟨id⟩
  else .error (.invalid ("Product id '" ++ id ++ "' contains invalid characters. " ++
    "Only ASCII letters, digits, hyphens and underscores are allowed."))

/-- Where the PDF report of a product is kept unless another name is given. -/
def pdfName (id : ProductId) : String := "bdba_scan_" ++ id.text ++ ".pdf"

end ProductId

end ScanGate
