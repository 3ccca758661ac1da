/-!
JSON values. The fields of an object keep their order, and a number keeps its text.
-/

namespace InterfaceMocks.Json

inductive Value where
  | null
  | bool (value : Bool)
  | number (text : String)
  | string (value : String)
  | array (items : List Value)
  | object (fields : List (String × Value))
  deriving Inhabited

namespace Value

def string? : Value → Option String
  | string value => some value
  | _ => none

def bool? : Value → Option Bool
  | bool value => some value
  | _ => none

def array? : Value → Option (List Value)
  | array items => some items
  | _ => none

end Value

end InterfaceMocks.Json
