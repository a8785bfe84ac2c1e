/-! JSON values as they are written: numbers by their digits, the members of an
object in order and with their repetitions. A string whose escapes leave half of
a surrogate pair alone stands for no text at all, `none`. -/
namespace ScanGate

inductive Json where
  | null
  | bool (value : Bool)
  | number (literal : String)
  | string (text : Option String)
  | array (items : List Json)
  | object (members : List (Option String × Json))

namespace Json

instance : Inhabited Json := ⟨null⟩

/-- A whole string. -/
def text (s : String) : Json := string (some s)

def nat (n : Nat) : Json := number (toString n)

/-- The text if there is one, `null` otherwise. -/
def optionalText : Option String → Json
  | some s => text s
  | none => null

/-- An object with whole keys. -/
def record (members : List (String × Json)) : Json :=
  object (members.map fun (key, value) => (some key, value))

mutual

/-- How many arrays and objects are open at once at most. -/
def depth : Json → Nat
  | array items => depthItems items + 1
  | object members => depthMembers members + 1
  | _ => 0

def depthItems : List Json → Nat
  | [] => 0
  | item :: rest => max item.depth (depthItems rest)

def depthMembers : List (Option String × Json) → Nat
  | [] => 0
  | (_, value) :: rest => max value.depth (depthMembers rest)

end

end Json

end ScanGate
