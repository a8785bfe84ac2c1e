import ScanGate.View.Json
import ScanGate.View.Text

/-! The formats of a report and its rendering in one of them. -/
namespace ScanGate

inductive Format where
  | text
  | json
  deriving DecidableEq, Repr, Inhabited

namespace Format

/-- Upper and lower case of the letters A to Z are the same. -/
def ofName (name : String) : Except String Format :=
  match name.map Char.toLower with
  | "text" => .ok text
  | "txt" => .ok text
  | "json" => .ok json
  | _ => .error ("Invalid format: " ++ name ++ ". Please specify 'text' or 'json'")

def name : Format → String
  | text => "text"
  | json => "json"

/-- What is told while a report is rendered. -/
def progress : Format → String
  | text => "📝 Rendering text report..."
  | json => "📝 Rendering JSON report..."

end Format

/-- Only the text has colours. -/
def View.render (format : Format) (colored : Bool) (v : View) : String :=
  match format with
  | .text => v.text colored
  | .json => v.json

end ScanGate
