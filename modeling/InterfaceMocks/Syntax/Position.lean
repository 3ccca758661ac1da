/-!
Places in a source: rows count line feeds, and columns count bytes, both from zero.
-/

namespace InterfaceMocks.Syntax

structure Position where
  row : Nat
  column : Nat
  deriving DecidableEq, Repr

namespace Position

def start : Position := ⟨0, 0⟩

def step (position : Position) (c : Char) : Position :=
  if c = '\n' then ⟨position.row + 1, 0⟩
  else ⟨position.row, position.column + c.utf8Size⟩

def advance (position : Position) (text : String) : Position :=
  text.toList.foldl step position

end Position

end InterfaceMocks.Syntax
