import InterfaceMocks.Descriptor.Codec
import InterfaceMocks.Files.Path

/-!
How mocks are generated: the name of the file they go to, what removes unused imports from it, and
whether it is written or only shown.
-/

namespace InterfaceMocks

open InterfaceMocks.Json

/-- What removes unused imports: this library, an external tool, or nothing. -/
inductive Pruner where
  | builtin
  | tool
  | off
  deriving DecidableEq, Repr

namespace Pruner

def label : Pruner → String
  | builtin => "builtin"
  | tool => "goimports"
  | off => "none"

def lowercase (s : String) : String := String.ofList (s.toList.map Char.toLower)

def unknown (name : String) : String :=
  "unknown pruner `" ++ name ++ "` (expected builtin, goimports or none)"

/-- The pruner of a name in any case, or a message. -/
def ofName (name : String) : Except String Pruner :=
  match lowercase name with
  | "builtin" => .ok builtin
  | "goimports" => .ok tool
  | "none" => .ok off
  | "off" => .ok off
  | other => .error (unknown other)

def ofLabel? : String → Option Pruner
  | "builtin" => some builtin
  | "goimports" => some tool
  | "none" => some off
  | _ => none

/-- The pruner that a value names: a label, or an object whose only field is a label without a
value. -/
def ofJson? : Value → Option Pruner
  | .string label => ofLabel? label
  | .object [(label, .null)] => ofLabel? label
  | _ => none

end Pruner

structure Settings where
  outputName : String := "mocks.go"
  pruner : Pruner := .builtin
  toolPath : String := "goimports"
  dryRun : Bool := false
  deriving DecidableEq, Repr

namespace Settings

def toJson (settings : Settings) : Value :=
  .object
    [("output_filename", .string settings.outputName),
     ("pruner", .string settings.pruner.label),
     ("goimports_path", .string settings.toolPath),
     ("dry_run", .bool settings.dryRun)]

def optionalField? {α : Type} (index : Nat) (name : String) (item? : Value → Option α)
    (default : α) : Value → Option α
  | .object fields =>
      match fields.lookup name with
      | some value => item? value
      | none => some default
  | .array items =>
      match items[index]? with
      | some value => item? value
      | none => some default
  | _ => none

def isWithin (count : Nat) : Value → Bool
  | .array items => items.length ≤ count
  | _ => true

/-- The settings that a value describes; what it leaves out has its default. -/
def ofJson? (value : Value) : Option Settings :=
  let defaults : Settings := {}
  if isWithin 4 value then
    (optionalField? 0 "output_filename" Value.string? defaults.outputName value).bind fun name =>
      (optionalField? 1 "pruner" Pruner.ofJson? defaults.pruner value).bind fun pruner =>
        (optionalField? 2 "goimports_path" Value.string? defaults.toolPath value).bind fun tool =>
          (optionalField? 3 "dry_run" Value.bool? defaults.dryRun value).map fun dryRun =>
            ⟨name, pruner, tool, dryRun⟩
  else none

def outputPath (settings : Settings) (directory : String) : String :=
  Path.join directory settings.outputName

end Settings

end InterfaceMocks
