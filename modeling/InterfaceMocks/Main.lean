import InterfaceMocks.Plan

/-!
The program. It reads what the command line has to look at, prints to standard output or writes the
output file as the plan says, and reports on standard error.
-/

namespace InterfaceMocks.Program

def cause : IO.Error → OsError
  | .noFileOrDirectory .. => .notFound
  | .noSuchThing .. => .notFound
  | .inappropriateType _ code _ => if code = 21 then .isADirectory else .notADirectory
  | .alreadyExists .. => .exists
  | .invalidArgument _ code _ => if code = 36 then .nameTooLong else .notFound
  | .resourceExhausted .. => .tooManyLinks
  | _ => .permissionDenied

def attempt {α : Type} (action : IO α) : IO (Except OsError α) := do
  match ← action.toBaseIO with
  | .ok value => return .ok value
  | .error error => return .error (cause error)

/-- An entry of a directory. Only the contents of source files are read. -/
def entry (file : IO.FS.DirEntry) : IO (String × Node) := do
  match (← file.path.symlinkMetadata).type with
  | .dir => return (file.fileName, .directory)
  | .file =>
      if Loading.isSourceName file.fileName then
        return (file.fileName, .file outputMode (← IO.FS.readBinFile file.path))
      else return (file.fileName, .file outputMode .empty)
  | _ => return (file.fileName, .link "")

def listing (directory : String) : IO Loading.Listing :=
  attempt do
    let path ← IO.FS.realPath directory
    (← path.readDir).toList.mapM entry

/-- The script at a path, which is run whatever its mode. -/
def script (program : String) : IO (Except OsError String) := do
  match ← attempt (IO.FS.readBinFile program) with
  | .ok bytes => return Pruning.scriptOf (.file 0o755 bytes)
  | .error error => return .error error

def rights : IO.FileRight where
  user := ⟨true, true, false⟩
  group := ⟨true, false, false⟩
  other := ⟨true, false, false⟩

def save (path : String) (bytes : ByteArray) : IO (Except OsError Unit) :=
  attempt do
    IO.FS.writeBinFile path bytes
    IO.setAccessRights path rights

def report (verbose : Bool) (log : List Log.Entry) : IO Unit :=
  (Log.shown verbose log).forM fun entry =>
    IO.eprintln (entry.level.label ++ ": " ++ entry.message)

/-- What is said about a failure, from the outside in. -/
def explain : Failure → List String
  | .error context error => context ++ error.message?.toList
  | .other messages => messages

def refuse (failure : Failure) : IO UInt32 := do
  IO.eprintln ("Error: " ++ ": ".intercalate (explain failure))
  return 1

def carryOut : Except Failure Delivery → IO UInt32
  | .error failure => refuse failure
  | .ok (.print bytes) => do
      (← IO.getStdout).write bytes
      return 0
  | .ok (.write path bytes) => do
      match ← save path bytes with
      | .error error => refuse (unwritable path error)
      | .ok () =>
          report false [written path]
          return 0

def start (verbose : Bool) (command : CommandLine) : IO UInt32 := do
  let around : Surroundings :=
    ⟨← listing command.directory, ← script command.settings.toolPath⟩
  let plan := plan around command
  report verbose plan.log
  carryOut plan.result

end InterfaceMocks.Program

open InterfaceMocks in
def main (args : List String) : IO UInt32 := do
  match CommandLine.parse args with
  | .error error =>
      IO.eprintln error.label
      return error.exitCode.toUInt32
  | .ok command =>
      let verbose := (← IO.getEnv "LOG") = some "debug"
      Program.start verbose command
