import InterfaceMocks.Plan

/-!
Running a command line on a file system. A run carries out what the command line asks for, and so
changes at most the output file.
-/

namespace InterfaceMocks

open InterfaceMocks.Log (Entry)

structure Outcome where
  store : Store
  output : ByteArray
  log : List Entry
  failure : Option Failure

def Surroundings.ofStore (store : Store) (command : CommandLine) : Surroundings where
  listing := store.list command.directory
  script := Pruning.findScript store command.settings.toolPath

def Plan.carryOut (store : Store) (plan : Plan) : Outcome :=
  match plan.result with
  | .error failure => ⟨store, .empty, plan.log, some failure⟩
  | .ok (.print bytes) => ⟨store, bytes, plan.log, none⟩
  | .ok (.write path bytes) =>
      match store.write path outputMode bytes with
      | .error error => ⟨store, .empty, plan.log, some (unwritable path error)⟩
      | .ok store => ⟨store, .empty, plan.log ++ [written path], none⟩

def run (store : Store) (command : CommandLine) : Outcome :=
  (plan (.ofStore store command) command).carryOut store

end InterfaceMocks
