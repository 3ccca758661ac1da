/-!
Types as the mocks need them: names, qualified names, pointers, slices and arrays. Every other form
of type is `unrecognised`, and its text is deliberately no type at all, so that a mock which needs it
does not compile.
-/

namespace InterfaceMocks

/-- Types: `array none elem` is a slice, and the length of an array is kept as it was written. -/
inductive TypeExpr where
  | named (name : String)
  | qualified (package name : String)
  | pointer (inner : TypeExpr)
  | array (length : Option String) (element : TypeExpr)
  | unrecognised
  deriving DecidableEq, Repr, Inhabited

namespace TypeExpr

/-- What stands in the generated source for a type that was not recognised. -/
def unrecognisedText : String := "<unrecognised>"

def render : TypeExpr → String
  | named name => name
  | qualified package name => package ++ "." ++ name
  | pointer inner => "*" ++ inner.render
  | array length element => "[" ++ length.getD "" ++ "]" ++ element.render
  | unrecognised => unrecognisedText

/-- Whether the type, or one inside it, was not recognised. -/
def isUnrecognised : TypeExpr → Bool
  | named _ => false
  | qualified _ _ => false
  | pointer inner => inner.isUnrecognised
  | array _ element => element.isUnrecognised
  | unrecognised => true

end TypeExpr

end InterfaceMocks
