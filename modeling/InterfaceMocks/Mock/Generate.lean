import InterfaceMocks.Layout.Format
import InterfaceMocks.Log
import InterfaceMocks.Mock.Emission

/-!
The mocks file of a package, laid out.
-/

namespace InterfaceMocks

def generate? (package : Package) : Option String := format? (Emission.package package)

def generateRemark (package : Package) : Log.Entry :=
  Log.debug s!"Generating {package.interfaces.length} mock(s) with {package.methodCount} method(s) for package {package.name}"

end InterfaceMocks
