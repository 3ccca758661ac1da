import InterfaceMocks.Descriptor.TypeExpr
import InterfaceMocks.Syntax.Lexer
import InterfaceMocks.Syntax.Tree

/-!
The trees of the constructs that a mocks file is made of, and of the interfaces it is made from, with
the white space before each token as a part of the construct. White space inside a type, before a
comma or before a closing parenthesis is never there.
-/

namespace InterfaceMocks.Written

open InterfaceMocks.Syntax

/-- White space before a token; none where it is empty. -/
def gap (space : String) : List Gap := if space = "" then [] else [.blank space]

def token (space : String) (lexeme : Lexeme) (text : String) : Token := ⟨gap space, lexeme, text⟩

def mark (space text : String) : Tree := .leaf .mark .plain (token space .mark text)

def keyword (space text : String) : Tree := .leaf .mark .plain (token space .word text)

def name (kind : Kind) (role : Role) (space text : String) : Tree :=
  .leaf kind role (token space .word text)

def breaks (space : String) : Bool := space.toList.contains '\n'

section Tokens

variable (space : String) (lexeme : Lexeme) (text : String)

@[simp] theorem token_lexeme : (token space lexeme text).lexeme = lexeme := rfl

@[simp] theorem token_text : (token space lexeme text).text = text := rfl

@[simp] theorem token_startsLine : (token space lexeme text).startsLine = breaks space := by
  by_cases none : space = ""
  · simp [token, gap, Token.startsLine, breaks, none]
  · simp [token, gap, Token.startsLine, breaks, none, Gap.endsLine]

@[simp] theorem breaks_nothing : breaks "" = false := rfl

@[simp] theorem breaks_blank : breaks " " = false := rfl

@[simp] theorem tokens_mark : (mark space text).tokens = [token space .mark text] := by
  simp [mark, Tree.tokens]

@[simp] theorem tokens_keyword : (keyword space text).tokens = [token space .word text] := by
  simp [keyword, Tree.tokens]

@[simp] theorem tokens_name (kind : Kind) (role : Role) :
    (name kind role space text).tokens = [token space .word text] := by
  simp [name, Tree.tokens]

end Tokens

def commas : List Tree → List Tree
  | [] => []
  | first :: rest => first :: rest.flatMap fun tree => [mark "" ",", tree]

/-- The class of a literal: that of what stands first in its text. -/
def classOf (literal : String) : Lexeme :=
  match literal.toList with
  | [] => .int
  | c :: rest =>
      match Lexer.extent c rest with
      | some (.lexeme lexeme, _) => lexeme
      | _ => .int

def literalKind : Lexeme → Kind
  | .float => .floatLiteral
  | .imaginary => .imaginaryLiteral
  | .rune => .runeLiteral
  | .quoted => .interpretedStringLiteral
  | .raw => .rawStringLiteral
  | .int | .word | .mark => .intLiteral

def length (text : String) : Tree :=
  .leaf (literalKind (classOf text)) .length (token "" (classOf text) text)

/-- A type; one that was not recognised stands as if its text were a name. -/
def type (role : Role) (space : String) : TypeExpr → Tree
  | .named text => name .typeIdentifier role space text
  | .qualified package text =>
      .node .qualifiedType role
        [name .packageIdentifier .package space package, mark "" ".",
         name .typeIdentifier .name "" text]
  | .pointer inner => .node .pointerType role [mark space "*", type .plain "" inner]
  | .array none element =>
      .node .sliceType role [mark space "[", mark "" "]", type .element "" element]
  | .array (some text) element =>
      .node .arrayType role [mark space "[", length text, mark "" "]", type .element "" element]
  | .unrecognised => name .typeIdentifier role space TypeExpr.unrecognisedText

/-- Parameters that share a type; without a name, a type alone. -/
structure Slot where
  space : String
  names : List String
  type : TypeExpr

namespace Slot

def trees (slot : Slot) : List Tree :=
  match slot.names with
  | [] => [Written.type .type slot.space slot.type]
  | first :: more =>
      name .identifier .name slot.space first
        :: more.flatMap (fun text => [mark "" ",", name .identifier .name " " text])
        ++ [Written.type .type " " slot.type]

def tree (slot : Slot) : Tree := .node .parameterDeclaration .plain slot.trees

end Slot

def parameters (role : Role) (space : String) (slots : List Slot) : Tree :=
  .node .parameterList role (mark space "(" :: commas (slots.map Slot.tree) ++ [mark "" ")"])

inductive Result where
  | none
  | lone (space : String) (type : TypeExpr)
  | list (space : String) (slots : List Slot)

def Result.trees : Result → List Tree
  | none => []
  | lone space type => [Written.type .result space type]
  | list space slots => [parameters .result space slots]

structure Signature where
  args : List Slot
  result : Result

def Signature.trees (signature : Signature) : List Tree :=
  parameters .parameters "" signature.args :: signature.result.trees

def functionType (role : Role) (space : String) (signature : Signature) : Tree :=
  .node .functionType role (keyword space "func" :: signature.trees)

/-! The parts of a mocks file. -/

structure Field where
  space : String
  name : String
  typeSpace : String
  signature : Signature

def Field.tree (field : Field) : Tree :=
  .node .fieldDeclaration .plain
    [Written.name .fieldIdentifier .name field.space field.name,
     functionType .type field.typeSpace field.signature]

def structType (before : String) (fields : List Field) (after : String) : Tree :=
  .node .structType .type
    [keyword " " "struct",
     .node .fieldDeclarationList .plain
       (mark before "\x7b" :: fields.map Field.tree ++ [mark after "\x7d"])]

def typeDeclaration (space text : String) (target : Tree) : Tree :=
  .node .typeDeclaration .plain
    [keyword space "type",
     .node .typeSpec .plain [name .typeIdentifier .name " " text, target]]

def operandKind (text : String) : Kind :=
  if text = "nil" then .nilLiteral
  else if text = "true" then .trueLiteral
  else if text = "false" then .falseLiteral
  else if text = "iota" then .iota
  else .identifier

def arguments : List String → List Tree
  | [] => []
  | first :: more =>
      name (operandKind first) .plain "" first
        :: more.flatMap fun text => [mark "" ",", name (operandKind text) .plain " " text]

def call (space receiver field : String) (args : List String) : Tree :=
  .node .callExpression .plain
    [.node .selectorExpression .function
       [name .identifier .operand space receiver, mark "" ".",
        name .fieldIdentifier .field "" field],
     .node .argumentList .arguments (mark "" "(" :: arguments args ++ [mark "" ")"])]

def statement (returns : Bool) (space receiver field : String) (args : List String) : Tree :=
  if returns then
    .node .returnStatement .plain
      [keyword space "return", .node .expressionList .plain [call " " receiver field args]]
  else .node .expressionStatement .plain [call space receiver field args]

def block (role : Role) (space : String) (returns : Bool) (receiver field : String)
    (args : List String) : Tree :=
  .node .block role
    [mark " " "\x7b", statement returns space receiver field args, mark "\n" "\x7d"]

structure MockMethod where
  space : String
  receiver : String
  owner : String
  name : String
  signature : Signature
  field : String
  bodySpace : String
  returns : Bool
  args : List String

def MockMethod.tree (method : MockMethod) : Tree :=
  .node .methodDeclaration .plain
    ([keyword method.space "func",
      parameters .receiver " " [⟨"", [method.receiver], .named method.owner⟩],
      Written.name .fieldIdentifier .name " " method.name]
      ++ method.signature.trees
      ++ [block .body method.bodySpace method.returns method.receiver method.field method.args])

def package (text : String) : Tree :=
  .node .packageClause .plain
    [keyword "" "package", name .packageIdentifier .plain " " text]

def quoted (text : String) : String := "\x22" ++ text ++ "\x22"

structure ImportLine where
  space : String
  label : String
  path : String

namespace ImportLine

def path? (line : ImportLine) (space : String) : Tree :=
  .leaf .interpretedStringLiteral .path (token space .quoted (quoted line.path))

def trees (line : ImportLine) : List Tree :=
  if line.label = "" then [line.path? line.space]
  else if line.label = "." then
    [.leaf .dotName .name (token line.space .mark "."), line.path? " "]
  else if line.label = "_" then
    [name .blankName .name line.space "_", line.path? " "]
  else [name .packageIdentifier .name line.space line.label, line.path? " "]

def tree (line : ImportLine) : Tree := .node .importSpec .plain line.trees

end ImportLine

def imports (space : String) (lines : List ImportLine) (after : String) : Tree :=
  .node .importDeclaration .plain
    [keyword space "import",
     .node .importSpecList .plain
       (mark " " "(" :: lines.map ImportLine.tree ++ [mark after ")"])]

/-! The parts of an interface. -/

structure Element where
  space : String
  name : String
  signature : Signature

def Element.tree (element : Element) : Tree :=
  .node .methodElement .plain
    (Written.name .fieldIdentifier .name element.space element.name :: element.signature.trees)

def interfaceType (elements : List Element) : Tree :=
  .node .interfaceType .type
    (keyword " " "interface" :: mark " " "\x7b" :: elements.map Element.tree ++ [mark "\n" "\x7d"])

end InterfaceMocks.Written
