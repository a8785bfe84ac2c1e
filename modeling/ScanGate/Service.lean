import ScanGate.Report

/-! The scan service as the gate sees it: three calls that may fail, and the page
of a product. -/
namespace ScanGate

/-- What is scanned: a local file, or one that the service downloads. -/
inductive Target where
  | file (path : String)
  | url (address : String)
  deriving DecidableEq, Repr

def Target.text : Target → String
  | file path => "file " ++ path
  | url address => "url " ++ address

structure Service (m : Type → Type) where
  submit : Target → (group : String) → ExceptT Failure m ProductId
  report : ProductId → ExceptT Failure m Report
  pdf : ProductId → ExceptT Failure m ByteArray
  link : ProductId → String

end ScanGate
