import ScanGate.Console
import ScanGate.Service

/-! Downloading the PDF report of a product; an empty one is a failure. -/
namespace ScanGate.Download

variable {m : Type → Type} [Monad m]

def run (service : Service m) (say : Message → m Unit) (id : ProductId) :
    ExceptT Failure m ByteArray := do
  say (.waiting ("Downloading PDF report for product " ++ id.text ++ "..."))
  let content ← service.pdf id
  if content.size = 0 then throw (.emptyPdf id.text)
  say (.report ("📄 Received " ++ toString content.size ++ " bytes"))
  return content

end ScanGate.Download
