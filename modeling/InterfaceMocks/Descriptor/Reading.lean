import InterfaceMocks.Descriptor.Codec
import InterfaceMocks.Json.Reader

/-!
Descriptors from text, the other way of `dump`.
-/

namespace InterfaceMocks

def Package.ofText? (text : String) : Option Package :=
  (Json.Value.ofText? text).bind Package.ofJson?

end InterfaceMocks
