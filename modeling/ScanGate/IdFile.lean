import ScanGate.Files
import ScanGate.ProductId

/-! The file that hands a product id from the submission to the report: the id on
its own, blanks around it ignored. -/
namespace ScanGate.IdFile

variable {m : Type → Type} [Monad m]

/-- Where the id is kept. -/
def path : String := "scan.id"

def save (s : System m) (path : String) (id : ProductId) : ExceptT Failure m Unit := do
  match ← s.write path id.text.toUTF8 with
  | .ok () => pure ()
  | .error e => throw (.unwritable path e.text)

def load (s : System m) (path : String) : ExceptT Failure m ProductId := do
  let content ← tryCatch (Files.readText s path "scan id file")
    fun failure => throw (.idFile path failure.message)
  match ProductId.ofString content with
  | .ok id => return id
  | .error failure => throw (.idFile path failure.message)

end ScanGate.IdFile
