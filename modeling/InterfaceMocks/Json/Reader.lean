import InterfaceMocks.Json.Token

/-!
Reading a JSON text. The tokens are read from left to right, with the arrays and objects that are
still open kept aside, the innermost first.
-/

namespace InterfaceMocks.Json

namespace Reader

inductive Frame where
  | array (items : List Value)
  | object (fields : List (String × Value)) (name : String)

inductive Awaiting where
  | value
  /-- The first item of an array, or its end. -/
  | itemOrEnd
  /-- The first name in an object, or its end. -/
  | nameOrEnd
  | name (fields : List (String × Value))
  | colon (fields : List (String × Value)) (name : String)
  /-- What follows a value. -/
  | next (value : Value)

def read : Awaiting → List Frame → List Token → Option Value
  | .next value, [], [] => some value
  | .next value, .array items :: frames, .comma :: rest =>
      read .value (.array (items ++ [value]) :: frames) rest
  | .next value, .array items :: frames, .closeArray :: rest =>
      read (.next (.array (items ++ [value]))) frames rest
  | .next value, .object fields name :: frames, .comma :: rest =>
      read (.name (fields ++ [(name, value)])) frames rest
  | .next value, .object fields name :: frames, .closeObject :: rest =>
      read (.next (.object (fields ++ [(name, value)]))) frames rest
  | .value, frames, .scalar value :: rest => read (.next value) frames rest
  | .value, frames, .openArray :: rest => read .itemOrEnd frames rest
  | .value, frames, .openObject :: rest => read .nameOrEnd frames rest
  | .itemOrEnd, frames, .closeArray :: rest => read (.next (.array [])) frames rest
  | .itemOrEnd, frames, .scalar value :: rest => read (.next value) (.array [] :: frames) rest
  | .itemOrEnd, frames, .openArray :: rest => read .itemOrEnd (.array [] :: frames) rest
  | .itemOrEnd, frames, .openObject :: rest => read .nameOrEnd (.array [] :: frames) rest
  | .nameOrEnd, frames, .closeObject :: rest => read (.next (.object [])) frames rest
  | .nameOrEnd, frames, .scalar (.string name) :: rest => read (.colon [] name) frames rest
  | .name fields, frames, .scalar (.string name) :: rest => read (.colon fields name) frames rest
  | .colon fields name, frames, .colon :: rest => read .value (.object fields name :: frames) rest
  | _, _, _ => none

end Reader

def Value.ofText? (text : String) : Option Value :=
  (Token.scan .space text.toList).bind (Reader.read .value [])

end InterfaceMocks.Json
