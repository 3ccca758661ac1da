import InterfaceMocks.Text.LetterCase

/-!
The names of a mock. An interface `Reader` gets the struct `mockReader`, its method `Close` the field
`mClose`, and the receiver of the struct's methods is `rm`.
-/

namespace InterfaceMocks.Naming

open InterfaceMocks.Text

/-- The first character in upper case, and the rest as it is. -/
def title (name : String) : String :=
  match name.toList with
  | [] => ""
  | c :: rest => String.ofList (LetterCase.upper c ++ rest)

def structName (interface : String) : String := "mock" ++ title interface

def fieldName (method : String) : String := "m" ++ title method

def receiverName (interface : String) : String :=
  match interface.toList with
  | [] => "m"
  | c :: _ => String.ofList (LetterCase.lower c ++ ['m'])

end InterfaceMocks.Naming
