import InterfaceMocks.CommandLine
import InterfaceMocks.Loading
import InterfaceMocks.Mock.Generate
import InterfaceMocks.Pruning.Pruner

/-!
What a command line asks for, decided without changing anything: to show the descriptor of the
package, or to generate its mocks and then show them or write them to the output file.
-/

namespace InterfaceMocks

open InterfaceMocks.Log (Entry)
open InterfaceMocks.Loading (Listing)

/-- Why a run ended: what was being done, from the outside in, and the cause. A cause that is not one
of this library is a list of messages. -/
inductive Failure where
  | error (context : List String) (error : Error)
  | other (messages : List String)
  deriving DecidableEq

inductive Delivery where
  | print (bytes : ByteArray)
  | write (path : String) (bytes : ByteArray)

structure Plan where
  log : List Entry
  result : Except Failure Delivery

/-- What a run looks at: the directory of the package, and the script of the external tool. -/
structure Surroundings where
  listing : Listing
  script : Except OsError String

namespace Plan

def parseContext (directory : String) : String := "Failed to parse Go package in " ++ directory

def fail (log : List Entry) (context : String) (error : Error) : Plan :=
  ⟨log, .error (.error [context] error)⟩

def warnings (package : Package) : List Entry :=
  package.unrecognised.map fun entry =>
    Log.warn s!"{entry.1}.{entry.2} uses an unsupported type; the generated method will not compile"

def inspect (listing : Listing) (directory : String) : Plan :=
  let log :=
    Log.debug ("Inspecting Go package in " ++ directory) :: Loading.remarks directory listing
  match Loading.load directory listing with
  | .error error => fail log (parseContext directory) error
  | .ok package => ⟨log, .ok (.print (package.dump ++ "\n").toUTF8)⟩

def deliver (settings : Settings) (path : String) (bytes : ByteArray) : Delivery :=
  if settings.dryRun then .print bytes else .write path bytes

def generatePackage (script : Except OsError String) (directory : String) (settings : Settings)
    (package : Package) (log : List Entry) : Plan :=
  let log := log
    ++ [Log.info s!"{package.interfaces.length} interface declarations found, generating mocks..."]
    ++ warnings package ++ [generateRemark package]
  match generate? package with
  | none => fail log "Failed to generate mocks" .unformattable
  | some text =>
      let path := settings.outputPath directory
      let log := log ++ Log.debug ("Pruning imports with " ++ settings.pruner.label)
        :: Pruning.runRemarks settings path text.toUTF8
      match Pruning.run script settings path text.toUTF8 with
      | .error error => fail log ("Failed to prune imports of " ++ path) error
      | .ok bytes => ⟨log, .ok (deliver settings path bytes)⟩

def generate (around : Surroundings) (directory : String) (settings : Settings) : Plan :=
  let log :=
    Log.debug ("Scanning Go package in " ++ directory) :: Loading.remarks directory around.listing
  match Loading.load directory around.listing with
  | .error error => fail log (parseContext directory) error
  | .ok package =>
      if package.interfaces.isEmpty then
        ⟨log ++ [Log.info "no interfaces found in package provided, exiting."],
          .ok (.print .empty)⟩
      else generatePackage around.script directory settings package log

end Plan

def plan (around : Surroundings) (command : CommandLine) : Plan :=
  if command.json then Plan.inspect around.listing command.directory
  else Plan.generate around command.directory command.settings

def outputMode : Nat := 0o644

def written (path : String) : Entry := Log.info ("Done! Wrote " ++ path)

def unwritable (path : String) (error : OsError) : Failure :=
  .other ["Failed to open " ++ path ++ " for writing", error.message]

end InterfaceMocks
