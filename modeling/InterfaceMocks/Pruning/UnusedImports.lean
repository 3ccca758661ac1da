import InterfaceMocks.Extraction.Interfaces
import InterfaceMocks.Pruning.PackageName
import InterfaceMocks.Layout.Format
import InterfaceMocks.Log
import InterfaceMocks.Text.Edit

/-!
Removal of imports that a file does not use. An import is used when the name by which its package is
known stands before a dot somewhere in the file, in a type or as the operand of a selector; blank and
dot imports always count as used. Only import declarations change, and the file is formatted after.
-/

namespace InterfaceMocks.Pruning

open InterfaceMocks.Syntax
open InterfaceMocks.Grammar (Source)
open InterfaceMocks.Extraction (importSpecs unquote)

def ownQualifier (kind : Kind) (children : List Tree) : Option String :=
  match kind with
  | .qualifiedType => Tree.textAt .package children
  | .selectorExpression =>
      ((children.find? fun tree => tree.role = .operand).filter
        fun tree => tree.kind = .identifier).map Tree.text
  | _ => none

mutual

def qualifiers : Tree → List String
  | .leaf _ _ _ => []
  | .node kind _ children => (ownQualifier kind children).toList ++ qualifiersOf children

def qualifiersOf : List Tree → List String
  | [] => []
  | tree :: rest => qualifiers tree ++ qualifiersOf rest

end

def isUsed (used : List String) (spec : Tree) : Bool :=
  match spec.child? .name with
  | some name => name.text = "_" || name.text = "." || used.contains name.text
  | none => used.contains (assumedName (unquote (((spec.child? .path).map Tree.text).getD "")))

/-- The imports that are kept, one on a line; no declaration at all when there are none. -/
def importBlock (specs : List String) : String :=
  if specs.isEmpty then ""
  else "import (\n" ++ String.join (specs.map fun spec => "\t" ++ spec ++ "\n") ++ ")"

/-- What is to stand in the place of an import declaration. One whose imports are all used stays as
it is. -/
def replacement? (used : List String) (declaration : Tree) : Option String :=
  let specs := importSpecs declaration
  let kept := specs.filter (isUsed used)
  if kept.length = specs.length && !specs.isEmpty then none
  else some (importBlock (kept.map Tree.text))

/-- The edits of the import declarations among trees that stand from byte `offset` on. -/
def editsFrom (used : List String) : Nat → List Tree → List Text.Edit
  | _, [] => []
  | offset, tree :: rest =>
      let start := offset + (Gap.textOf tree.lead).utf8ByteSize
      let stop := start + tree.text.utf8ByteSize
      let replacement := if tree.kind = .importDeclaration then replacement? used tree else none
      (replacement.map fun text => ⟨start, stop, text⟩).toList ++ editsFrom used stop rest

def edits (source : Source) : List Text.Edit :=
  editsFrom (qualifiersOf source.trees) 0 source.trees

def remarks (source : Source) : List Log.Entry :=
  let used := qualifiersOf source.trees
  source.trees.flatMap fun tree =>
    if tree.kind = .importDeclaration then
      ((importSpecs tree).filter fun spec => !isUsed used spec).map fun spec =>
        Log.debug s!"Dropping unused import {spec.text}"
    else []

inductive Failure where
  -- the source cannot be read
  | malformed
  -- what is left after pruning cannot be read
  | unformattable
  deriving DecidableEq

def prune (source : String) : Except Failure String :=
  let placeholder := Placeholder.choose source
  let guarded := Placeholder.protect placeholder source
  match Source.parse? guarded with
  | none => .error .malformed
  | some file =>
      match format? (Placeholder.restore placeholder (Text.Edit.applyAll (edits file) guarded)) with
      | none => .error .unformattable
      | some text => .ok text

def pruneRemarks (source : String) : List Log.Entry :=
  match Source.parse? (Placeholder.protect (Placeholder.choose source) source) with
  | none => []
  | some file => remarks file

end InterfaceMocks.Pruning
