import ScanGate.Failure
import ScanGate.Text.Blank

/-! Host names as users give them: no protocol, no path, no query and no blank
inside. Blanks around the name are ignored. -/
namespace ScanGate.Host

/-- Whether `part` occurs in `cs`. -/
def occurs (part : List Char) : List Char → Bool
  | [] => part.isEmpty
  | c :: cs => part.isPrefixOf (c :: cs) || occurs part cs

def check (host : String) : Except Failure Unit :=
  let name := Text.trimChars host.toList
  if name.isEmpty then .error (.host .blank)
  else if occurs [':', '/', '/'] name then .error (.host (.protocol host))
  else if name.any (fun c => c == '/' || c == '?' || c == '#') then .error (.host (.path host))
  else if name.any Text.isBlank then .error (.host (.whitespace host))
  else .ok ()

end ScanGate.Host
