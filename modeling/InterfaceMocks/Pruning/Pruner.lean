import InterfaceMocks.Error
import InterfaceMocks.Files.Script
import InterfaceMocks.Files.Store
import InterfaceMocks.Pruning.UnusedImports
import InterfaceMocks.Settings

/-!
The three ways to prune a generated file. A pruner takes the path that the file is written to and its
bytes, and gives the bytes to write.
-/

namespace InterfaceMocks.Pruning

def builtin (path : String) (bytes : ByteArray) : Except Error ByteArray :=
  match Text.Utf8.decode bytes with
  | .error flaw => .error (.pruning (.notText path flaw))
  | .ok text =>
      match prune text with
      | .ok pruned => .ok pruned.toUTF8
      | .error .malformed => .error (.pruning .malformed)
      | .error .unformattable => .error .unformattable

def isExecutable (mode : Nat) : Bool := mode &&& 0o111 ≠ 0

def scriptOf : Node → Except OsError String
  | .file mode contents =>
      if isExecutable mode then
        match String.fromUTF8? contents with
        | some text => if Script.isScript text then .ok text else .error .execFormat
        | none => .error .execFormat
      else .error .permissionDenied
  | _ => .error .permissionDenied

/-- The text of the script at a path. A program without a slash in its name is looked for elsewhere,
where there is none. -/
def findScript (store : Store) (program : String) : Except OsError String :=
  if program.toList.contains '/' then
    match store.find program with
    | .error error => .error error
    | .ok (_, node) => scriptOf node
  else .error .notFound

def tool (script : Except OsError String) (program path : String) (bytes : ByteArray) :
    Except Error ByteArray :=
  match script with
  | .error error => .error (.pruning (.notRun program error))
  | .ok text =>
      let outcome := Script.run text ["-srcdir", path] ((String.fromUTF8? bytes).getD "")
      if outcome.status = 0 then .ok outcome.output.toUTF8
      else .error (.pruning (.failed program outcome.status (Text.trim outcome.report)))

/-- Prunes the bytes of a file that is written to `path`; `script` is that of the external tool. -/
def run (script : Except OsError String) (settings : Settings) (path : String)
    (bytes : ByteArray) : Except Error ByteArray :=
  match settings.pruner with
  | .builtin => builtin path bytes
  | .tool => tool script settings.toolPath path bytes
  | .off => .ok bytes

def runRemarks (settings : Settings) (path : String) (bytes : ByteArray) : List Log.Entry :=
  match settings.pruner with
  | .builtin => ((String.fromUTF8? bytes).map pruneRemarks).getD []
  | .tool => [Log.debug ("Running " ++ settings.toolPath ++ " -srcdir " ++ path)]
  | .off => []

end InterfaceMocks.Pruning
