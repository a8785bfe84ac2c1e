import ScanGate.CommandLine.Usage
import ScanGate.Run

/-! The program: a run in the surroundings of a process. -/
namespace ScanGate

/-- The system of the process. It opens no connections, so nothing ever answers a
request. -/
def processSystem : System IO where
  lookup? name := IO.getEnv name
  inspect path := attempt path do
    let metadata ← (entry path).path.symlinkMetadata
    return match metadata.type with
      | .dir => .directory
      | .file => .file metadata.byteSize.toNat
      | .symlink => .link
      | .other => .other
  exists? path := if path.isEmpty then return false else (entry path).path.pathExists
  read path := attempt path do return .bytes (← IO.FS.readBinFile path)
  write path data := attempt path (IO.FS.writeBinFile path data)
  send _ := return .unreachable
  output text := do
    let stream ← IO.getStdout
    stream.putStr text
    stream.flush
  error text := do
    let stream ← IO.getStderr
    stream.putStr text
    stream.flush
where
  /-- A path as an entry of the working directory. -/
  entry (path : String) : IO.FS.DirEntry := ⟨".", path⟩
  /-- An operation on a path that may fail; there is nothing at an empty one. -/
  attempt {α : Type} (path : String) (act : IO α) : IO (Except OsError α) :=
    if path.isEmpty then return .error .notFound
    else try
      let result ← act
      return .ok result
    catch failure => return .error (reason failure)
  reason : IO.Error → OsError
    | .noFileOrDirectory .. => .notFound
    -- some calls give the code with its sign changed
    | .inappropriateType _ code _ =>
      if code = 20 ∨ code = 0 - 20 then .notDirectory else .isDirectory
    | .permissionDenied .. => .denied
    | failure => .other failure.toString

/-- Runs the command that the arguments name. -/
def runProcess (args : List String) : IO ExitCode := do
  match CommandLine.parse args with
  | .ok command => Run.run processSystem command
  | .error problem =>
    if problem.exitCode = .success then processSystem.output problem.text
    else processSystem.error problem.text
    return problem.exitCode

end ScanGate

def main (args : List String) : IO UInt32 := do
  return (← ScanGate.runProcess args).toNat.toUInt32
