/-! File paths as text. Components are separated by slashes; empty ones, and dots
after the first place, do not count. -/
namespace ScanGate.Path

/-- The pieces between slashes. -/
def pieces : List Char → List (List Char)
  | [] => [[]]
  | '/' :: cs => [] :: pieces cs
  | c :: cs =>
    match pieces cs with
    | [] => [[c]]
    | p :: ps => (c :: p) :: ps

def isAbsolute (path : String) : Bool := path.toList.head? == some '/'

/-- The names to walk through, in order. -/
def steps (path : String) : List String := (pieces path.toList).map String.ofList

/-- The components with the length of the path up to the end of each. A dot is
one only at the start of a path that is not absolute. -/
def components (path : List Char) : List (List Char × Nat) :=
  let absolute := path.head? == some '/'
  go absolute 0 (pieces path)
where
  go (inside : Bool) (offset : Nat) : List (List Char) → List (List Char × Nat)
  | [] => []
  | p :: ps =>
    let stop := offset + p.length
    let rest := go true (stop + 1) ps
    if p.isEmpty || (inside && p == ['.']) then rest else (p, stop) :: rest

/-- The path without its last component; nothing for an empty path and the root. -/
def parent? (path : String) : Option String :=
  let cs := path.toList
  match (components cs).reverse with
  | [] => none
  | [_] => some (if isAbsolute path then "/" else "")
  | _ :: (_, stop) :: _ => some (String.ofList (cs.take stop))

/-- The last component, unless it only points to a directory. -/
def fileName? (path : String) : Option String :=
  match (components path.toList).getLast? with
  | some (name, _) => if name == ['.'] || name == ['.', '.'] then none
    else some (String.ofList name)
  | none => none

/-- A file of this name in a directory. -/
def join (directory name : String) : String :=
  if name.toList.head? == some '/' then name
  else if directory.isEmpty then name
  else if directory.toList.getLast? == some '/' then directory ++ name
  else directory ++ "/" ++ name

end ScanGate.Path
