import InterfaceMocks.Extraction.Parsing

/-!
Reading a type back from its text. The text is put into a small file as the type of a variable, and
the file is read.
-/

namespace InterfaceMocks.Extraction

open InterfaceMocks.Syntax
open InterfaceMocks.Grammar (Source)

def variableFile (type : String) : String := "package p\n\nvar x " ++ type ++ "\n"

/-- The tree of the type in what a file declares second. -/
def variableType? (source : Source) : Option Tree :=
  ((source.items[1]?.bind Item.tree?).bind fun declaration =>
    declaration.items.head?.bind Item.tree?).bind (Tree.child? .type)

def reconstruct (type : String) : Except Error (Option TypeExpr) :=
  match Source.parse? (variableFile type) with
  | none => .error (.malformed "t.go")
  | some source => .ok ((variableType? source).map typeOf)

end InterfaceMocks.Extraction
