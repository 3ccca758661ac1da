import InterfaceMocks.Layout.Types
import InterfaceMocks.Proofs.Written.Trees

/-!
The constructs that are laid out anew, as what they say, without the marks and the white space that
say it; and the tree of each where it is laid out. `space` is the white space before a construct,
and `indent` the depth of the line that it stands on.
-/

namespace InterfaceMocks.Preservation

open InterfaceMocks.Syntax
open InterfaceMocks.Layout (tabs spaces)
open InterfaceMocks.Written (token mark keyword operandKind)

/-- A string literal, with its quotes. -/
structure Quote where
  raw : Bool
  text : String

/-- What stands before the type of a parameter: its names, and whether there may be many. -/
structure Label where
  variadic : Bool
  names : List String

mutual

inductive Ty where
  | name (text : String)
  | qualified (package text : String)
  | pointer (target : Ty)
  | slice (element : Ty)
  | array (length : String) (element : Ty)
  | function (parameters : Parameters) (result : Result)
  | struct (fields : Fields)

inductive Parameters where
  | nil
  | cons (label : Label) (type : Ty) (rest : Parameters)

/-- Nothing, one type alone, or a list that needs its parentheses. -/
inductive Result where
  | none
  | lone (type : Ty)
  | list (parameters : Parameters)

/-- Fields of a struct; one without names is embedded. -/
inductive Fields where
  | nil
  | cons (names : List String) (type : Ty) (tag : Option Quote) (rest : Fields)

end

mutual

inductive Expr where
  | name (text : String)
  | int (text : String)
  | selector (operand : Expr) (field : String)
  | paren (inner : Expr)
  | call (function : Expr) (arguments : Arguments)
  -- a call of `new` or `make` with a type
  | allocation (word type : String) (arguments : Arguments)

inductive Arguments where
  | nil
  | cons (first : Expr) (rest : Arguments)

end

inductive Statement where
  | return (values : Arguments)
  | expression (value : Expr)

inductive ImportName where
  | dot
  | blank
  | word (text : String)

structure Import where
  name : Option ImportName
  path : Quote

structure TypeSpec where
  isAlias : Bool
  name : String
  target : Ty

inductive Declaration where
  | package (name : String)
  | import (spec : Import)
  | imports (specs : List Import)
  | type (spec : TypeSpec)
  | types (specs : List TypeSpec)
  | function (receiver : Option Parameters) (name : String) (parameters : Parameters)
      (result : Result) (body : Option (List Statement))

/-! Their trees. -/

def lineAt (indent : Nat) : String := "\n" ++ tabs indent

def Quote.tree (role : Role) (space : String) (quote : Quote) : Tree :=
  if quote.raw then .leaf .rawStringLiteral role (token space .raw quote.text)
  else .leaf .interpretedStringLiteral role (token space .quoted quote.text)

def nameTrees (kind : Kind) (space first : String) (more : List String) : List Tree :=
  Written.name kind .name space first
    :: more.flatMap fun text => [mark "" ",", Written.name kind .name " " text]

def Label.tree (label : Label) (space : String) (type : String → Tree) : Tree :=
  match label with
  | ⟨false, []⟩ => .node .parameterDeclaration .plain [type space]
  | ⟨false, first :: more⟩ =>
      .node .parameterDeclaration .plain (nameTrees .identifier space first more ++ [type " "])
  | ⟨true, []⟩ => .node .variadicParameterDeclaration .plain [mark space "...", type ""]
  | ⟨true, first :: more⟩ =>
      .node .variadicParameterDeclaration .plain
        (nameTrees .identifier space first more ++ [mark " " "...", type ""])

def listTree (role : Role) (space : String) (items : List Tree) : Tree :=
  .node .parameterList role (mark space "(" :: (items ++ [mark "" ")"]))

def tagTrees : Option Quote → List Tree
  | none => []
  | some tag => [tag.tree .tag " "]

def fieldTree (indent width : Nat) (names : List String) (type : String → Tree)
    (tag : Option Quote) : Tree :=
  .node .fieldDeclaration .plain <|
    match names with
    | [] => type (lineAt indent) :: tagTrees tag
    | first :: more =>
        nameTrees .fieldIdentifier (lineAt indent) first more
          ++ type (spaces (width - (", ".intercalate names).length) ++ " ") :: tagTrees tag

def structTree (role : Role) (space : String) (indent : Nat) (fields : List Tree) : Tree :=
  .node .structType role
    [keyword space "struct",
     .node .fieldDeclarationList .plain <|
       if fields.isEmpty then [mark "" "\x7b", mark "" "\x7d"]
       else mark " " "\x7b" :: (fields ++ [mark (lineAt indent) "\x7d"])]

def Fields.columns : Fields → List String
  | nil => []
  | cons names _ _ rest => ", ".intercalate names :: rest.columns

def Fields.width (fields : Fields) : Nat := (fields.columns.map String.length).foldl max 0

mutual

def Ty.tree (role : Role) (space : String) (indent : Nat) : Ty → Tree
  | .name text => Written.name .typeIdentifier role space text
  | .qualified package text =>
      .node .qualifiedType role
        [Written.name .packageIdentifier .package space package, mark "" ".",
         Written.name .typeIdentifier .name "" text]
  | .pointer target =>
      .node .pointerType role [mark space "*", target.tree .plain "" indent]
  | .slice element =>
      .node .sliceType role [mark space "[", mark "" "]", element.tree .element "" indent]
  | .array length element =>
      .node .arrayType role
        [mark space "[", .leaf .intLiteral .length (token "" .int length), mark "" "]",
         element.tree .element "" indent]
  | .function parameters result =>
      .node .functionType role
        (keyword space "func" :: listTree .parameters "" (parameters.trees indent)
          :: result.trees indent)
  | .struct fields => structTree role space indent (fields.trees (indent + 1) fields.width)

def Parameters.trees (indent : Nat) : Parameters → List Tree
  | .nil => []
  | .cons label type rest =>
      label.tree "" (fun space => type.tree .type space indent) :: rest.more indent

def Parameters.more (indent : Nat) : Parameters → List Tree
  | .nil => []
  | .cons label type rest =>
      mark "" "," :: label.tree " " (fun space => type.tree .type space indent) :: rest.more indent

def Result.trees (indent : Nat) : Result → List Tree
  | .none => []
  | .lone type => [type.tree .result " " indent]
  | .list parameters => [listTree .result " " (parameters.trees indent)]

def Fields.trees (indent width : Nat) : Fields → List Tree
  | .nil => []
  | .cons names type tag rest =>
      fieldTree indent width names (fun space => type.tree .type space indent) tag
        :: rest.trees indent width

end

mutual

def Expr.tree (role : Role) (space : String) : Expr → Tree
  | .name text => Written.name (operandKind text) role space text
  | .int text => .leaf .intLiteral role (token space .int text)
  | .selector operand field =>
      .node .selectorExpression role
        [operand.tree .operand space, mark "" ".", Written.name .fieldIdentifier .field "" field]
  | .paren inner =>
      .node .parenthesizedExpression role [mark space "(", inner.tree .plain "", mark "" ")"]
  | .call function arguments =>
      .node .callExpression role
        [function.tree .function space,
         .node .argumentList .arguments (mark "" "(" :: (arguments.trees "" ++ [mark "" ")"]))]
  | .allocation word type arguments =>
      .node .callExpression role
        [Written.name .identifier .function space word,
         .node .argumentList .arguments
          (mark "" "(" :: Written.name .typeIdentifier .plain "" type
            :: (arguments.more ++ [mark "" ")"]))]

/-- Expressions with commas between them, and white space before the first. -/
def Arguments.trees (space : String) : Arguments → List Tree
  | .nil => []
  | .cons first rest => first.tree .plain space :: rest.more

def Arguments.more : Arguments → List Tree
  | .nil => []
  | .cons first rest => mark "" "," :: first.tree .plain " " :: rest.more

end

def Statement.tree (space : String) : Statement → Tree
  | .return .nil => .node .returnStatement .plain [keyword space "return"]
  | .return values =>
      .node .returnStatement .plain
        [keyword space "return", .node .expressionList .plain (values.trees " ")]
  | .expression value => .node .expressionStatement .plain [value.tree .plain space]

def bodyTree (statements : List Statement) : Tree :=
  .node .block .body
    (mark " " "\x7b" :: (statements.map (Statement.tree (lineAt 1)) ++ [mark "\n" "\x7d"]))

def ImportName.tree (space : String) : ImportName → Tree
  | .dot => .leaf .dotName .name (token space .mark ".")
  | .blank => Written.name .blankName .name space "_"
  | .word text => Written.name .packageIdentifier .name space text

def Import.tree (space : String) (spec : Import) : Tree :=
  .node .importSpec .plain <|
    match spec.name with
    | none => [spec.path.tree .path space]
    | some label => [label.tree space, spec.path.tree .path " "]

def TypeSpec.tree (space : String) (indent : Nat) (spec : TypeSpec) : Tree :=
  if spec.isAlias then
    .node .typeAlias .plain
      [Written.name .typeIdentifier .name space spec.name, mark " " "=",
       spec.target.tree .type " " indent]
  else
    .node .typeSpec .plain
      [Written.name .typeIdentifier .name space spec.name, spec.target.tree .type " " indent]

def Declaration.tree (space : String) : Declaration → Tree
  | .package text =>
      .node .packageClause .plain
        [keyword space "package", Written.name .packageIdentifier .plain " " text]
  | .import spec => .node .importDeclaration .plain [keyword space "import", spec.tree " "]
  | .imports specs =>
      .node .importDeclaration .plain
        [keyword space "import",
         .node .importSpecList .plain
           (mark " " "(" :: (specs.map (Import.tree (lineAt 1))
             ++ [mark (if specs.isEmpty then "" else "\n") ")"]))]
  | .type spec => .node .typeDeclaration .plain [keyword space "type", spec.tree " " 0]
  | .types specs =>
      .node .typeDeclaration .plain
        (keyword space "type" :: mark " " "(" ::
          (specs.map (TypeSpec.tree (lineAt 1) 1) ++ [mark "\n" ")"]))
  | .function none text parameters result body =>
      .node .functionDeclaration .plain
        (keyword space "func" :: Written.name .identifier .name " " text
          :: listTree .parameters "" (parameters.trees 0)
          :: (result.trees 0 ++ body.toList.map bodyTree))
  | .function (some receiver) text parameters result body =>
      .node .methodDeclaration .plain
        (keyword space "func" :: listTree .receiver " " (receiver.trees 0)
          :: Written.name .fieldIdentifier .name " " text
          :: listTree .parameters "" (parameters.trees 0)
          :: (result.trees 0 ++ body.toList.map bodyTree))

end InterfaceMocks.Preservation
