import InterfaceMocks.Layout.Declarations
import InterfaceMocks.Layout.Placeholder

/-!
Formatting: reading a source and writing it canonically.
-/

namespace InterfaceMocks

open InterfaceMocks.Grammar (Source)

def format? (source : String) : Option String :=
  let placeholder := Placeholder.choose source
  (Source.parse? (Placeholder.protect placeholder source)).map fun file =>
    Placeholder.restore placeholder (Layout.file file)

end InterfaceMocks
