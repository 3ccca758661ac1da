import InterfaceMocks.Mock.Forwarding

/-!
The source of a mocks file, before it is laid out: a struct for each interface, with a function field
for each method, and methods on it that call these fields.
-/

namespace InterfaceMocks.Emission

/-- A name and a type for each parameter; a missing name leaves its space. -/
def params (list : List Param) : String :=
  ", ".intercalate (list.map fun param => param.name ++ " " ++ param.type.render)

def imports (list : Imports) : String :=
  "import (\n"
    ++ String.join (list.entries.map fun entry => entry.2 ++ " \x22" ++ entry.1 ++ "\x22\n")
    ++ ")\n"

def structField (method : Method) : String :=
  Naming.fieldName method.name ++ " func(" ++ params (Forwarding.arguments method) ++ ") ("
    ++ params method.returns ++ ")\n"

def struct (interface : Interface) : String :=
  "type " ++ Naming.structName interface.name ++ " struct \x7b\n"
    ++ String.join (interface.methods.map structField) ++ "\x7d\n"

def method (interface : String) (method : Method) : String :=
  let args := Forwarding.arguments method
  let receiver := Forwarding.receiver interface args method.returns
  "func (" ++ receiver ++ " " ++ Naming.structName interface ++ ") " ++ method.name ++ "("
    ++ params args ++ ") (" ++ params method.returns ++ ") \x7b\n"
    ++ (if method.returns.isEmpty then "" else "return ")
    ++ receiver ++ "." ++ Naming.fieldName method.name ++ "("
    ++ ", ".intercalate (args.map Param.name) ++ ")\n"
    ++ "\x7d\n"

def interface (interface : Interface) : String :=
  struct interface ++ String.join (interface.methods.map (method interface.name)) ++ "\n"

def package (package : Package) : String :=
  "package " ++ package.name ++ "\n" ++ imports package.imports
    ++ String.join (package.interfaces.map interface)

end InterfaceMocks.Emission
