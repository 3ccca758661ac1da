import InterfaceMocks.Layout.Expressions

/-!
The canonical text of a type. Names, pointers, slices, arrays, functions, structs and parentheses are
laid out anew; any other type keeps its source text, with white space collapsed. A struct has one
field on a line, with the types in one column; its indentation depends on how deep it stands.
-/

namespace InterfaceMocks.Layout

open InterfaceMocks.Syntax

def tabs (count : Nat) : String := String.ofList (List.replicate count '\t')

def spaces (count : Nat) : String := String.ofList (List.replicate count ' ')

structure FieldRow where
  names : String
  type : String

def FieldRow.line (indent width : Nat) (row : FieldRow) : String :=
  tabs (indent + 1)
    ++ (if row.names = "" then row.type
        else row.names ++ spaces (width - row.names.length) ++ " " ++ row.type)
    ++ "\n"

def structText (indent : Nat) (rows : List FieldRow) : String :=
  if rows.isEmpty then "struct\x7b\x7d"
  else
    let width := (rows.map fun row => row.names.length).foldl max 0
    "struct \x7b\n" ++ String.join (rows.map (FieldRow.line indent width)) ++ tabs indent ++ "\x7d"

def nameList (siblings : List Tree) : String :=
  ", ".intercalate ((siblings.filter fun tree => tree.role = .name).map Tree.text)

def isParameter (tree : Tree) : Bool :=
  tree.kind = .parameterDeclaration || tree.kind = .variadicParameterDeclaration

def parameterTrees (siblings : List Tree) : List Tree := siblings.filter isParameter

/-- Whether results are written without parentheses: there is only one, and it has no name. -/
def isLoneType (siblings : List Tree) : Bool :=
  match parameterTrees siblings with
  | [only] => only.kind = .parameterDeclaration && (only.child? .name).isNone
  | _ => false

def parameterText (kind : Kind) (siblings : List Tree) (type : String) : String :=
  let type := if kind = .variadicParameterDeclaration then "..." ++ type else type
  let names := nameList siblings
  if (siblings.filter fun tree => tree.role = .name).isEmpty then type else names ++ " " ++ type

def signatureText (parameters : Option String) (result : String) : String :=
  "(" ++ parameters.getD "" ++ ")" ++ result

mutual

def type (indent : Nat) : Tree → String
  | .leaf _ _ token => token.text
  | .node kind role children =>
      match kind with
      | .qualifiedType =>
          match Tree.textAt .package children, Tree.textAt .name children with
          | some package, some name => package ++ "." ++ name
          | _, _ => collapsed (.node kind role children)
      | .pointerType =>
          match firstType indent false children with
          | some inner => "*" ++ inner
          | none => collapsed (.node kind role children)
      | .sliceType =>
          match typeAt indent .element children with
          | some element => "[]" ++ element
          | none => collapsed (.node kind role children)
      | .arrayType =>
          match expressionAt .length children, typeAt indent .element children with
          | some length, some element => "[" ++ length ++ "]" ++ element
          | _, _ => collapsed (.node kind role children)
      | .functionType =>
          "func" ++ signatureText (parametersAt indent .parameters children)
            (resultAt indent children)
      | .structType =>
          match fieldsAt indent children with
          | some rows => structText indent rows
          | none => collapsed (.node kind role children)
      | .interfaceType =>
          if (Tree.itemsOf children).isEmpty then "interface\x7b\x7d"
          else collapsed (.node kind role children)
      | .parenthesizedType =>
          match firstType indent false children with
          | some inner => "(" ++ inner ++ ")"
          | none => collapsed (.node kind role children)
      | _ => collapsed (.node kind role children)

/-- The first item among the siblings; a comment counts unless it stands before them all. -/
def firstType (indent : Nat) (commented : Bool) : List Tree → Option String
  | [] => none
  | tree :: rest =>
      match commentTexts commented tree with
      | text :: _ => some text
      | [] => if tree.isNamed then some (type indent tree) else firstType indent true rest

def typeAt (indent : Nat) (role : Role) : List Tree → Option String
  | [] => none
  | tree :: rest => if tree.role = role then some (type indent tree) else typeAt indent role rest

def fieldsAt (indent : Nat) : List Tree → Option (List FieldRow)
  | [] => none
  | .node kind _ children :: rest =>
      if kind = .fieldDeclarationList then some (fieldRows indent children)
      else fieldsAt indent rest
  | .leaf _ _ _ :: rest => fieldsAt indent rest

def fieldRows (indent : Nat) : List Tree → List FieldRow
  | [] => []
  | .node kind role children :: rest =>
      if kind = .fieldDeclaration then
        let type := (typeAt (indent + 1) .type children).getD (collapsed (.node kind role children))
        let tag := ((Tree.textAt .tag children).map (" " ++ ·)).getD ""
        ⟨nameList children, type ++ tag⟩ :: fieldRows indent rest
      else fieldRows indent rest
  | .leaf _ _ _ :: rest => fieldRows indent rest

def parametersAt (indent : Nat) (role : Role) : List Tree → Option String
  | [] => none
  | .node _ own children :: rest =>
      if own = role then some (", ".intercalate (parameterTexts indent children))
      else parametersAt indent role rest
  | .leaf _ own _ :: rest => if own = role then some "" else parametersAt indent role rest

def parameterTexts (indent : Nat) : List Tree → List String
  | [] => []
  | .node kind role children :: rest =>
      if isParameter (.node kind role children) then
        parameterText kind children ((typeAt indent .type children).getD "")
          :: parameterTexts indent rest
      else parameterTexts indent rest
  | .leaf _ _ _ :: rest => parameterTexts indent rest

/-- The result among the siblings, with a space before it; an empty list of results has no text. -/
def resultAt (indent : Nat) : List Tree → String
  | [] => ""
  | .node kind role children :: rest =>
      if role = .result then
        if kind = .parameterList then
          let texts := parameterTexts indent children
          if texts.isEmpty then ""
          else if isLoneType children then " " ++ ", ".intercalate texts
          else " (" ++ ", ".intercalate texts ++ ")"
        else " " ++ type indent (.node kind role children)
      else resultAt indent rest
  | .leaf kind role token :: rest =>
      if role = .result then " " ++ type indent (.leaf kind role token) else resultAt indent rest

end

def signature (indent : Nat) (siblings : List Tree) : String :=
  signatureText (parametersAt indent .parameters siblings) (resultAt indent siblings)

end InterfaceMocks.Layout
