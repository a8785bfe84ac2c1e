import ScanGate.Failure
import ScanGate.Files.Path

/-! A tree of files, directories and symbolic links, and how the operating system
finds its way through it. Entries are kept by their way from the root, in the
order they were made; the root itself is always a directory. -/
namespace ScanGate

/-- What is in a file: bytes, or just a number of zeros. -/
inductive Content where
  | bytes (data : ByteArray)
  | zeros (count : Nat)

namespace Content

def size : Content → Nat
  | bytes data => data.size
  | zeros count => count

def data : Content → ByteArray
  | bytes data => data
  | zeros count => ⟨Array.replicate count 0⟩

end Content

inductive Entry where
  | file (content : Content)
  | directory
  | link (target : String)

/-- More than the names that following an entry adds to a path. -/
def Entry.detour : Entry → Nat
  | .link target => target.length + 2
  | .file _ | .directory => 0

/-- The way from the root. -/
abbrev Way := List String

structure Tree where
  entries : List (Way × Entry) := []
  /-- Where paths that are not absolute start. -/
  current : Way := []

/-- Where a path leads: to an entry, or to a place where there is none yet. -/
inductive Location where
  | found (way : Way) (entry : Entry)
  | vacant (way : Way)

/-- What a path is looked up for: the entry at its end, be it a link; what a link at
its end leads to; or a file to be written, made if it is missing. -/
inductive Purpose where
  | entry
  | target
  | creation
  deriving DecidableEq, Repr

namespace Tree

def entry? (t : Tree) (way : Way) : Option Entry :=
  if way.isEmpty then some .directory
  else (t.entries.find? (·.1 == way)).map (·.2)

/-- Puts an entry at a way, in place of the one there. -/
def insert (t : Tree) (way : Way) (entry : Entry) : Tree :=
  if t.entries.any (·.1 == way) then
    { t with entries := t.entries.map fun e => if e.1 == way then (way, entry) else e }
  else { t with entries := t.entries ++ [(way, entry)] }

def remove (t : Tree) (way : Way) : Tree :=
  { t with entries := t.entries.filter (·.1 != way) }

/-- The most bytes a name may have. -/
def maxName : Nat := 255

/-- The most bytes a path may have. -/
def maxPath : Nat := 4095

/-- The most links that are followed on the way. -/
def maxLinks : Nat := 40

/-- Walks from a directory through the names. A link is followed when more names
come after it, and at the end unless the entry itself is looked for. A file that is
made has no slash after its name. -/
def walk (t : Tree) (purpose : Purpose) : (links : Nat) → (fuel : Nat) → Way → List String →
    Except OsError Location
  | _, 0, _, _ => .error .tooManyLinks
  | _, _, here, [] => .ok (.found here .directory)
  | links, fuel + 1, here, step :: rest =>
    if step = "" ∨ step = "." then t.walk purpose links fuel here rest
    else if step = ".." then t.walk purpose links fuel here.dropLast rest
    else if purpose = .creation ∧ !rest.isEmpty ∧ rest.all (·.isEmpty) then .error .isDirectory
    else if maxName < step.utf8ByteSize then .error .nameTooLong
    else
      let way := here ++ [step]
      match t.entry? way with
      | none => if rest.isEmpty then .ok (.vacant way) else .error .notFound
      | some .directory => t.walk purpose links fuel way rest
      | some (.file content) =>
        if rest.isEmpty then .ok (.found way (.file content)) else .error .notDirectory
      | some (.link target) =>
        if rest.isEmpty ∧ purpose = .entry then .ok (.found way (.link target))
        else
          match links with
          | 0 => .error .tooManyLinks
          | links + 1 =>
            if target.isEmpty then .error .notFound
            else
              t.walk purpose links fuel (if Path.isAbsolute target then [] else here)
                (Path.steps target ++ rest)

def longestDetour (t : Tree) : Nat := (t.entries.map fun e => e.2.detour).foldr max 0

/-- Enough for every link to be followed as often as it may be. -/
def walkFuel (t : Tree) (path : String) : Nat :=
  path.length + 2 + (maxLinks + 1) * t.longestDetour

def locate (t : Tree) (purpose : Purpose) (path : String) : Except OsError Location :=
  if path.toList.any (· == Char.ofNat 0) then .error .nulInPath
  else if path.isEmpty then .error .notFound
  else if maxPath < path.utf8ByteSize then .error .nameTooLong
  else t.walk purpose maxLinks (t.walkFuel path)
    (if Path.isAbsolute path then [] else t.current) (Path.steps path)

/-- The entry at a path; a link at its end is not followed. -/
def inspect (t : Tree) (path : String) : Except OsError Entry :=
  match t.locate .entry path with
  | .ok (.found _ entry) => .ok entry
  | .ok (.vacant _) => .error .notFound
  | .error e => .error e

/-- Whether there is a file or a directory at the path, links followed. -/
def exists? (t : Tree) (path : String) : Bool :=
  match t.locate .target path with
  | .ok (.found ..) => true
  | _ => false

def read (t : Tree) (path : String) : Except OsError Content :=
  match t.locate .target path with
  | .ok (.found _ (.file content)) => .ok content
  | .ok (.found ..) => .error .isDirectory
  | .ok (.vacant _) => .error .notFound
  | .error e => .error e

/-- Writes a whole file, through links; a missing one is made where its directory
is there. -/
def write (t : Tree) (path : String) (data : ByteArray) : Except OsError Tree :=
  match t.locate .creation path with
  | .ok (.found way (.file _)) => .ok (t.insert way (.file (.bytes data)))
  | .ok (.found ..) => .error .isDirectory
  | .ok (.vacant way) => .ok (t.insert way (.file (.bytes data)))
  | .error e => .error e

/-- Puts an entry at a path, if its directory is there. -/
def place (t : Tree) (path : String) (entry : Entry) : Tree :=
  match t.locate .entry path with
  | .ok (.vacant way) => t.insert way entry
  | .ok (.found way _) => t.insert way entry
  | .error _ => t

/-- Removes a file or a link; directories stay. -/
def delete (t : Tree) (path : String) : Tree :=
  match t.locate .entry path with
  | .ok (.found way (.file _)) => t.remove way
  | .ok (.found way (.link _)) => t.remove way
  | _ => t

end Tree

end ScanGate
