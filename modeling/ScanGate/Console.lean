import ScanGate.View.Text

/-! Messages about the progress of a run. They go to the error stream, so that
the output stream carries the report alone. -/
namespace ScanGate

/-- A message, by what it is about. -/
inductive Message where
  | report (text : String)
  /-- A long call has begun; shown only while it lasts, and only on a terminal. -/
  | waiting (text : String)
  | warning (text : String)
  | error (text : String)
  | completion (text : String)
  deriving DecidableEq, Repr

namespace Message

def bold (text : String) : String :=
  String.ofList (Tint.escape :: ['[', '1', 'm']) ++ text ++
    String.ofList (Tint.escape :: ['[', '0', 'm'])

def warningMark : String := "⚠️  Warning:"

/-- What a message leaves on an error stream that is no terminal. -/
def render (colored : Bool) : Message → String
  | report text => text ++ "\n"
  | waiting _ => ""
  | warning text =>
    (if colored then bold (Tint.yellow.paint true warningMark) else warningMark) ++
      " " ++ text ++ "\n"
  | error text => Tint.red.paint colored text ++ "\n"
  | completion text => "\n" ++ text ++ "\n"

end Message

end ScanGate
