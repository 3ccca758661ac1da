import InterfaceMocks.Settings

/-!
The command line: a directory, perhaps the name of the output file, and options. Arguments are read
from left to right. The value of an option or of a place is only looked at when the next option or
place begins, or at the end, so that of two mistakes the one that is noticed first is reported.
-/

namespace InterfaceMocks

structure CommandLine where
  directory : String
  settings : Settings
  json : Bool
  deriving DecidableEq, Repr

inductive UsageError where
  | missingRequiredArgument
  | unknownArgument
  | argumentConflict
  | invalidValue
  | valueValidation
  | tooManyValues
  | displayHelp
  | displayVersion
  deriving DecidableEq, Repr

namespace UsageError

def label : UsageError → String
  | missingRequiredArgument => "MissingRequiredArgument"
  | unknownArgument => "UnknownArgument"
  | argumentConflict => "ArgumentConflict"
  | invalidValue => "InvalidValue"
  | valueValidation => "ValueValidation"
  | tooManyValues => "TooManyValues"
  | displayHelp => "DisplayHelp"
  | displayVersion => "DisplayVersion"

def exitCode : UsageError → Nat
  | displayHelp => 0
  | displayVersion => 0
  | _ => 2

end UsageError

namespace CommandLine

inductive Slot where
  | directory
  | outputName
  | pruner
  | toolPath
  deriving DecidableEq

inductive Flag where
  | dryRun
  | json
  | help
  | version
  deriving DecidableEq

inductive Meaning where
  | flag (flag : Flag)
  | option (slot : Slot)

def long? : String → Option Meaning
  | "dry-run" => some (.flag .dryRun)
  | "json" => some (.flag .json)
  | "help" => some (.flag .help)
  | "version" => some (.flag .version)
  | "pruner" => some (.option .pruner)
  | "goimports-path" => some (.option .toolPath)
  | _ => none

def short? : Char → Option Flag
  | 'd' => some .dryRun
  | 'h' => some .help
  | 'V' => some .version
  | _ => none

/-- What has been read so far, and the slot whose value has not been looked at yet. -/
structure Draft where
  directory : Option String := none
  outputName : Option String := none
  pruner : Option Pruner := none
  toolPath : Option String := none
  dryRun : Bool := false
  json : Bool := false
  pending : Option (Slot × Option String) := none

namespace Draft

def nonEmpty (value : String) : Except UsageError String :=
  if value = "" then .error .invalidValue else .ok value

/-- Gives a slot its value. A slot takes one value only. -/
def fill (draft : Draft) (slot : Slot) (value : String) : Except UsageError Draft :=
  match slot with
  | .directory => (nonEmpty value).map fun value => { draft with directory := some value }
  | .outputName => .ok { draft with outputName := some value }
  | .pruner =>
      if draft.pruner.isSome then .error .argumentConflict
      else
        match Pruner.ofName value with
        | .ok pruner => .ok { draft with pruner := some pruner }
        | .error _ => .error .valueValidation
  | .toolPath =>
      if draft.toolPath.isSome then .error .argumentConflict
      else (nonEmpty value).map fun value => { draft with toolPath := some value }

def settle (draft : Draft) : Except UsageError Draft :=
  match draft.pending with
  | none => .ok draft
  | some (_, none) => .error .invalidValue
  | some (slot, some value) => { draft with pending := none }.fill slot value

def raise (draft : Draft) (flag : Flag) : Except UsageError Draft :=
  draft.settle.bind fun draft =>
    match flag with
    | .dryRun =>
        if draft.dryRun then .error .argumentConflict else .ok { draft with dryRun := true }
    | .json => if draft.json then .error .argumentConflict else .ok { draft with json := true }
    | .help => .error .displayHelp
    | .version => .error .displayVersion

def raiseAll (draft : Draft) : List Char → Except UsageError Draft
  | [] => .ok draft
  | c :: rest =>
      match short? c with
      | none => .error .unknownArgument
      | some flag => (draft.raise flag).bind fun draft => draft.raiseAll rest

def option (draft : Draft) (name : String) (value : Option String) : Except UsageError Draft :=
  match long? name, value with
  | none, _ => .error .unknownArgument
  | some (.flag _), some _ => .error .tooManyValues
  | some (.flag flag), none => draft.raise flag
  | some (.option slot), some value => draft.settle.bind fun draft => draft.fill slot value
  | some (.option slot), none =>
      draft.settle.map fun draft => { draft with pending := some (slot, none) }

/-- The next place: first the directory, then the output file, and no more. -/
def place (draft : Draft) (value : String) : Except UsageError Draft :=
  let taken (slot : Slot) : Bool := draft.pending.any fun pending => pending.1 = slot
  if draft.directory.isNone && !taken .directory then
    draft.settle.map fun draft => { draft with pending := some (.directory, some value) }
  else if draft.outputName.isNone && !taken .outputName then
    draft.settle.map fun draft => { draft with pending := some (.outputName, some value) }
  else .error .unknownArgument

def awaits (draft : Draft) : Bool :=
  match draft.pending with
  | some (_, none) => true
  | _ => false

def supply (draft : Draft) (value : String) : Draft :=
  { draft with pending := draft.pending.map fun pending => (pending.1, some value) }

def value (draft : Draft) (text : String) : Except UsageError Draft :=
  if draft.awaits then .ok (draft.supply text) else draft.place text

def finish (draft : Draft) : Except UsageError CommandLine :=
  draft.settle.bind fun draft =>
    match draft.directory with
    | none => .error .missingRequiredArgument
    | some directory =>
        let defaults : Settings := {}
        .ok
          { directory := directory
            settings :=
              { outputName := draft.outputName.getD defaults.outputName
                pruner := draft.pruner.getD defaults.pruner
                toolPath := draft.toolPath.getD defaults.toolPath
                dryRun := draft.dryRun }
            json := draft.json }

end Draft

def splitValue (text : List Char) : String × Option String :=
  match text.dropWhile (· != '=') with
  | [] => (String.ofList text, none)
  | _ :: value => (String.ofList (text.takeWhile (· != '=')), some (String.ofList value))

def argument (draft : Draft) (text : String) : Except UsageError Draft :=
  match text.toList with
  | '-' :: '-' :: rest =>
      let (name, value) := splitValue rest
      draft.option name value
  | '-' :: c :: rest => draft.raiseAll (c :: rest)
  | _ => draft.value text

def places (draft : Draft) : List String → Except UsageError Draft
  | [] => .ok draft
  | text :: rest => (draft.place text).bind fun draft => places draft rest

def arguments (draft : Draft) : List String → Except UsageError Draft
  | [] => .ok draft
  | text :: rest =>
      if text = "--" then places draft rest
      else (argument draft text).bind fun draft => arguments draft rest

def parse (args : List String) : Except UsageError CommandLine :=
  (arguments {} args).bind Draft.finish

end CommandLine

end InterfaceMocks
