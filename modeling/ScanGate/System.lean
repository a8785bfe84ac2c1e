import ScanGate.Exchange

/-! What a run needs from its surroundings: environment variables, files, the
network and two output streams. A `System` says how each need is met in a monad;
`World` meets all of them with a value that the run changes. -/
namespace ScanGate

/-- What is found at a path without following a link at its end. -/
inductive Kind where
  | file (size : Nat)
  | directory
  | link
  | other
  deriving DecidableEq, Repr

def Entry.kind : Entry → Kind
  | .file content => .file content.size
  | .directory => .directory
  | .link _ => .link

structure System (m : Type → Type) where
  lookup? : String → m (Option String)
  inspect : String → m (Except OsError Kind)
  exists? : String → m Bool
  read : String → m (Except OsError Content)
  write : String → ByteArray → m (Except OsError Unit)
  send : Request → m Reply
  output : String → m Unit
  error : String → m Unit

/-- Everything outside a run: its files and variables, the network with the
answers it still has to give and the requests it has seen, and the two streams. -/
structure World where
  tree : Tree := {}
  environment : List (String × String) := []
  /-- Whether connections open at all. -/
  connected : Bool := true
  /-- Whether the other side of a connection shows a certificate that is trusted. -/
  trusted : Bool := true
  replies : List Reply := []
  requests : List Request := []
  output : String := ""
  error : String := ""

namespace World

def lookup? (w : World) (name : String) : Option String :=
  (w.environment.find? (·.1 == name)).map (·.2)

/-- Whether a connection for this request opens. -/
def opens (w : World) (request : Request) : Bool :=
  w.connected && (w.trusted || !request.verified || request.url.scheme != "https")

/-- Requests take the answers in order; when none is left, nothing answers. Where
no connection opens, the network sees no request. -/
def send (request : Request) : StateM World Reply := fun w =>
  if w.opens request then
    let w := { w with requests := w.requests ++ [request] }
    match w.replies with
    | [] => (.unreachable, w)
    | reply :: rest => (reply, { w with replies := rest })
  else (.unreachable, w)

def write (path : String) (data : ByteArray) : StateM World (Except OsError Unit) := fun w =>
  match w.tree.write path data with
  | .ok tree => (.ok (), { w with tree })
  | .error e => (.error e, w)

def system : System (StateM World) where
  lookup? name := do return (← get).lookup? name
  inspect path := do return ((← get).tree.inspect path).map Entry.kind
  exists? path := do return (← get).tree.exists? path
  read path := do return (← get).tree.read path
  write := write
  send := send
  output text := modify fun w => { w with output := w.output ++ text }
  error text := modify fun w => { w with error := w.error ++ text }

end World

end ScanGate
