import InterfaceMocks.Descriptor.TypeExpr
import InterfaceMocks.Syntax.Tree

/-!
From the tree of a type to its descriptor. Names, qualified names, pointers, slices and arrays are
recognised; the length of an array is kept when it is a basic literal, and dropped otherwise, so that
the array becomes a slice.
-/

namespace InterfaceMocks.Extraction

open InterfaceMocks.Syntax

/-- The text of the length of an array, where it is a basic literal. -/
def lengthText (siblings : List Tree) : Option String :=
  ((siblings.find? fun tree => tree.role = .length).filter
    fun tree => tree.kind.isBasicLiteral).map Tree.text

mutual

def typeOf : Tree → TypeExpr
  | .leaf kind _ token =>
      match kind with
      | .typeIdentifier | .identifier => .named token.text
      | _ => .unrecognised
  | .node kind _ children =>
      match kind with
      | .qualifiedType =>
          match Tree.textAt .package children, Tree.textAt .name children with
          | some package, some name => .qualified package name
          | _, _ => .unrecognised
      | .pointerType =>
          match firstType false children with
          | some inner => .pointer inner
          | none => .unrecognised
      | .sliceType =>
          match elementType children with
          | some element => .array none element
          | none => .unrecognised
      | .arrayType =>
          match elementType children with
          | some element => .array (lengthText children) element
          | none => .unrecognised
      | _ => .unrecognised

/-- The type of the first item among the siblings. A comment is an item of its own and not a type,
unless it stands before them all. -/
def firstType (commented : Bool) : List Tree → Option TypeExpr
  | [] => none
  | tree :: rest =>
      if commented && !tree.commentsBefore.isEmpty then some .unrecognised
      else if tree.isNamed then some (typeOf tree)
      else firstType true rest

def elementType : List Tree → Option TypeExpr
  | [] => none
  | tree :: rest => if tree.role = .element then some (typeOf tree) else elementType rest

end

end InterfaceMocks.Extraction
