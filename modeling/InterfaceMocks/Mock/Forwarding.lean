import InterfaceMocks.Descriptor.Package
import InterfaceMocks.Mock.Naming

/-!
The names by which a mocked method hands its arguments on. An argument without a name, or with the
blank name, cannot be handed on; where one occurs, all arguments are renamed. New names keep clear of
the names of the results, and the receiver keeps clear of both.
-/

namespace InterfaceMocks.Forwarding

/-- The name `name` with `suffix` appended until it is none of the taken names. A name that was
rejected is shorter than all later ones, so it need not be looked at again. -/
def fresh (suffix name : String) (taken : List String) : String :=
  if name ∈ taken then fresh suffix (name ++ suffix) (taken.erase name) else name
termination_by taken.length
decreasing_by
  rw [List.length_erase_of_mem ‹_›]
  have := List.length_pos_of_mem ‹name ∈ taken›
  omega

def isForwardable (param : Param) : Bool := param.name != "" && param.name != "_"

def renamed (taken : List String) (index : Nat) (param : Param) : Param :=
  ⟨fresh "_" ("arg" ++ toString index) taken, param.type⟩

def arguments (method : Method) : List Param :=
  if method.args.all isForwardable then method.args
  else method.args.mapIdx (renamed (method.returns.map Param.name))

def receiver (interface : String) (args returns : List Param) : String :=
  fresh "_m" (Naming.receiverName interface) ((args ++ returns).map Param.name)

end InterfaceMocks.Forwarding
