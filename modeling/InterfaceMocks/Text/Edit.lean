/-!
Edits of a text. An edit puts a text in the place of a range of bytes; several are applied from the
last to the first, so that the ranges of those still to come stay where they are.
-/

namespace InterfaceMocks.Text

/-- A range of bytes, and what is to stand in its place. -/
structure Edit where
  start : Nat
  stop : Nat
  replacement : String
  deriving DecidableEq, Repr

namespace Edit

def takeBytes : Nat → List Char → List Char
  | _, [] => []
  | count, c :: rest =>
      if c.utf8Size ≤ count then c :: takeBytes (count - c.utf8Size) rest else []

def dropBytes : Nat → List Char → List Char
  | _, [] => []
  | count, c :: rest =>
      if c.utf8Size ≤ count then dropBytes (count - c.utf8Size) rest else c :: rest

def apply (edit : Edit) (text : String) : String :=
  String.ofList (takeBytes edit.start text.toList) ++ edit.replacement
    ++ String.ofList (dropBytes edit.stop text.toList)

/-- Applies edits in the order of the text, the last of them first. -/
def applyAll (edits : List Edit) (text : String) : String := edits.foldr apply text

end Edit

end InterfaceMocks.Text
