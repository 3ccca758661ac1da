import InterfaceMocks.Grammar.Source
import InterfaceMocks.Layout.Spacing
import InterfaceMocks.Layout.Types

/-!
The canonical text of a file: each declaration laid out anew, where it is of a kind that generated
files have, and kept as it is written, with white space collapsed, where it is not.
-/

namespace InterfaceMocks.Layout

open InterfaceMocks.Syntax
open InterfaceMocks.Grammar (Source Placed)

def importSpec (spec : Tree) : String :=
  let path := ((spec.child? .path).map Tree.text).getD ""
  match spec.child? .name with
  | some name => name.text ++ " " ++ path
  | none => path

def importBlock (specs : List String) : String :=
  if specs.isEmpty then "import ()"
  else "import (\n" ++ String.join (specs.map fun spec => "\t" ++ spec ++ "\n") ++ ")"

def importDeclaration (tree : Tree) : String :=
  let lists := tree.childrenOf .importSpecList
  match lists, tree.childrenOf .importSpec with
  | [], spec :: _ => "import " ++ importSpec spec
  | _, _ => importBlock ((lists.flatMap (Tree.childrenOf .importSpec)).map importSpec)

def typeSpec (indent : Nat) (spec : Tree) : String :=
  match spec.child? .name, spec.child? .type, spec.child? .typeParameters with
  | some name, some target, none =>
      name.text ++ (if spec.kind = .typeAlias then " = " else " ") ++ type indent target
  | _, _, _ => collapsed spec

def isTypeSpec : Item → Bool
  | .branch tree => tree.kind = .typeSpec || tree.kind = .typeAlias
  | .comment _ => false

def isGrouped (tree : Tree) : Bool :=
  tree.children.any fun child => child.kind = .mark && child.text = "("

/-- Type declarations, alone or in a group. A comment inside keeps the whole as it is written. -/
def typeDeclaration (tree : Tree) : String :=
  if tree.items.all isTypeSpec then
    let specs := tree.items.filterMap Item.tree?
    if isGrouped tree then
      "type (\n" ++ String.join (specs.map fun spec => "\t" ++ typeSpec 1 spec ++ "\n") ++ ")"
    else
      match specs with
      | spec :: _ => "type " ++ typeSpec 0 spec
      | [] => collapsed tree
  else collapsed tree

def statementTree (tree : Tree) : String :=
  match tree.kind with
  | .returnStatement =>
      match tree.childrenOf .expressionList with
      | list :: _ => "return " ++ expressionList list
      | [] => "return"
  | .expressionStatement =>
      match expressionItems false tree.children with
      | text :: _ => text
      | [] => collapsed tree
  | _ => collapsed tree

def statement : Item → String
  | .comment text => Text.trimEnd text
  | .branch tree => statementTree tree

def block (body : Tree) : String :=
  "\x7b\n" ++ String.join (body.items.map fun item => "\t" ++ statement item ++ "\n") ++ "\x7d"

def functionDeclaration (tree : Tree) : String :=
  match tree.child? .name, tree.child? .typeParameters with
  | some name, none =>
      "func "
        ++ ((parametersAt 0 .receiver tree.children).map fun text => "(" ++ text ++ ") ").getD ""
        ++ name.text ++ signature 0 tree.children
        ++ ((tree.child? .body).map fun body => " " ++ block body).getD ""
  | _, _ => collapsed tree

def declaration (tree : Tree) : String :=
  match tree.kind with
  | .packageClause =>
      match tree.childrenOf .packageIdentifier with
      | name :: _ => "package " ++ name.text
      | [] => collapsed tree
  | .importDeclaration => importDeclaration tree
  | .typeDeclaration => typeDeclaration tree
  | .functionDeclaration => functionDeclaration tree
  | .methodDeclaration => functionDeclaration tree
  | _ => collapsed tree

def topLevel : Item → String
  | .comment text => Text.trimEnd text
  | .branch tree => declaration tree

def span (placed : Placed) : Span :=
  ⟨placed.item.kind?, placed.start.row, placed.stop.row⟩

def joinWith : List Nat → List String → String
  | _, [] => ""
  | [], text :: rest => text ++ joinWith [] rest
  | count :: counts, text :: rest =>
      if rest.isEmpty then text
      else text ++ String.ofList (List.replicate count '\n') ++ joinWith counts rest

/-- The canonical text of a file; it ends with a line feed unless it is empty. -/
def file (source : Source) : String :=
  let items := source.placed
  let text := joinWith (breaks (items.map span)) (items.map fun placed => topLevel placed.item)
  if text = "" then "" else text ++ "\n"

end InterfaceMocks.Layout
