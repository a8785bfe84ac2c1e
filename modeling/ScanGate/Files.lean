import ScanGate.Console
import ScanGate.System
import ScanGate.Text.Utf8

/-! Reading and writing files with care: only regular files of a bounded size are
read, and nothing is written through a link at the end of a path. -/
namespace ScanGate.Files

variable {m : Type → Type} [Monad m]

/-- The most bytes of a text file: ten mebibytes. -/
def maxText : Nat := 10 * 1024 * 1024

/-- The most bytes of a file to be scanned: eight gibibytes. -/
def maxUpload : Nat := 8 * 1024 * 1024 * 1024

def checkSize (size : Nat) (path : String) (limit : Nat) : Except Failure Unit :=
  if limit < size then .error (.tooLarge path size limit) else .ok ()

/-- The size of a regular file; `what` names it in failures. -/
def checkRegular (s : System m) (path what : String) : ExceptT Failure m Nat := do
  match ← s.inspect path with
  | .error e => throw (.metadata what e)
  | .ok .link => throw (.symbolicLink path)
  | .ok (.file size) => return size
  | .ok _ => throw (.notRegular path)

def readText (s : System m) (path what : String) : ExceptT Failure m String := do
  let size ← checkRegular s path what
  checkSize size path maxText
  match ← s.read path with
  | .error e => throw (.content what e.text)
  | .ok content =>
    match Text.ofUtf8? content.data with
    | some text => return text
    | none => throw (.content what "stream did not contain valid UTF-8")

/-- Writes a whole file. The directory has to be there and the path may not be a
link. -/
def writeBytes (s : System m) (path : String) (data : ByteArray) : ExceptT Failure m Unit := do
  match Path.parent? path with
  | some parent =>
    if parent ≠ "" ∧ !(← s.exists? parent) then
      throw (.unwritable path ("Parent directory does not exist: " ++ parent))
  | none => pure ()
  match ← s.inspect path with
  | .ok .link =>
    throw (.unwritable path ("Security: Output path is a symbolic link. " ++
      "For security reasons, writing to symbolic links is not allowed."))
  | _ => pure ()
  match ← s.write path data with
  | .ok () => pure ()
  | .error e => throw (.unwritable path e.text)

/-- Writes a rendered report and tells where it is. -/
def present (s : System m) (path content : String) : ExceptT Failure m Unit := do
  writeBytes s path content.toUTF8
  s.error ("✅ Output complete: " ++ path ++ "\n")

end ScanGate.Files
