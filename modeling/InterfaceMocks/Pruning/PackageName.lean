import InterfaceMocks.Files.Path
import InterfaceMocks.Text.Alphanumeric

/-!
The name that a package is assumed to have, by its import path alone: the last element of the path,
or the one before it where the last is a major version, without a leading `go-`, up to the first
character that cannot stand in a name.
-/

namespace InterfaceMocks.Pruning

open InterfaceMocks.Text

def isMajorVersion : List Char → Bool
  | 'v' :: digits => !digits.isEmpty && digits.all Char.isDigit
  | _ => false

/-- The element that names the package, given the elements from the last to the first. -/
def namingElement : List (List Char) → List Char
  | [] => []
  | [last] => last
  | last :: parent :: _ => if isMajorVersion last then parent else last

def withoutGo : List Char → List Char
  | 'g' :: 'o' :: '-' :: rest => rest
  | element => element

def assumedName (path : String) : String :=
  let element := withoutGo (namingElement (Path.components path.toList).reverse)
  String.ofList (element.takeWhile fun c => Alphanumeric.holds c || c == '_')

/-- The name by which a file knows the package that it imports by the given path and alias. -/
def localName (spec : String × String) : String :=
  if spec.2 = "" then assumedName spec.1 else spec.2

end InterfaceMocks.Pruning
