import InterfaceMocks.Proofs.Layout.Relaid

/-!
What formatting is to preserve, and of which sources. `settled` is a tree less what formatting may
change: white space, terminators, trailing commas, an empty list of results and the parentheses
around a lone unnamed one. `constituents` lists the constructs that are laid out anew, each with what
it may be built from. Three of their forms are not preserved, and `isSpared` is about them: the star
of an embedded pointer is lost, a number runs into the dot of a selector, and what is left of a
function type may be read as a name and its type.
-/

namespace InterfaceMocks.Preservation

open InterfaceMocks.Syntax InterfaceMocks.Grammar InterfaceMocks.Layout

/-! Settled trees. -/

def isMarkIn (texts : List String) (tree : Tree) : Bool :=
  match tree with
  | .leaf kind _ token => kind = .mark && texts.contains token.text
  | .node _ _ _ => false

/-- Whether a tree may be left out before its siblings: a terminator, or a comma at the end of a
list. -/
def isLoose (tree : Tree) (next : Option Tree) : Bool :=
  isMarkIn [";", "\x00"] tree
    || isMarkIn [","] tree && (next.map (isMarkIn [")", "]", "\x7d"])).getD false

def resultTypes (parameters : List Tree) : List Tree :=
  parameters.filterMap fun tree => (tree.child? .type).map (Tree.withRole .result)

/-- A list of results without parentheses that need not be there. -/
def freed (tree : Tree) : List Tree :=
  if tree.kind = .parameterList && tree.role = .result then
    if (parameterTrees tree.children).isEmpty then []
    else if isLoneType tree.children then resultTypes (parameterTrees tree.children)
    else [tree]
  else [tree]

mutual

def settled : Tree → Tree
  | .leaf kind role token => .leaf kind role (unspacedToken token)
  | .node kind role children => .node kind role (settledAll children)

def settledAll : List Tree → List Tree
  | [] => []
  | tree :: rest =>
      (if isLoose tree rest.head? then [] else freed (settled tree)) ++ settledAll rest

end

/-! The constructs that are laid out anew. -/

def typeKinds : List Kind :=
  [.typeIdentifier, .qualifiedType, .pointerType, .sliceType, .arrayType, .functionType, .structType]

def expressionKinds : List Kind :=
  [.identifier, .nilLiteral, .trueLiteral, .falseLiteral, .iota, .intLiteral, .selectorExpression,
   .parenthesizedExpression, .callExpression]

def stringKinds : List Kind := [.interpretedStringLiteral, .rawStringLiteral]

/-- What each construct may be built from. -/
def constituents : Kind → List Kind
  | .packageClause => [.packageIdentifier]
  | .importDeclaration => [.importSpec, .importSpecList]
  | .importSpecList => [.importSpec]
  | .importSpec => [.dotName, .blankName, .packageIdentifier] ++ stringKinds
  | .typeDeclaration => [.typeSpec, .typeAlias]
  | .typeSpec | .typeAlias => typeKinds
  | .functionDeclaration => [.identifier, .parameterList, .block] ++ typeKinds
  | .methodDeclaration => [.fieldIdentifier, .parameterList, .block] ++ typeKinds
  | .parameterList => [.parameterDeclaration, .variadicParameterDeclaration]
  | .parameterDeclaration | .variadicParameterDeclaration => .identifier :: typeKinds
  | .qualifiedType => [.packageIdentifier, .typeIdentifier]
  | .pointerType | .sliceType => typeKinds
  | .arrayType => .intLiteral :: typeKinds
  | .functionType => .parameterList :: typeKinds
  | .structType => [.fieldDeclarationList]
  | .fieldDeclarationList => [.fieldDeclaration]
  | .fieldDeclaration => .fieldIdentifier :: (stringKinds ++ typeKinds)
  | .block => [.returnStatement, .expressionStatement]
  | .returnStatement => [.expressionList]
  | .expressionList | .expressionStatement | .parenthesizedExpression => expressionKinds
  | .selectorExpression => .fieldIdentifier :: expressionKinds
  | .callExpression => .argumentList :: expressionKinds
  -- the name of a type is what `new` and `make` are given
  | .argumentList => .typeIdentifier :: expressionKinds
  | _ => []

def isBuilt (kind : Kind) (children : List Tree) : Bool :=
  children.all fun child => !child.isNamed || (constituents kind).contains child.kind

/-! The forms that are not preserved. -/

def isUnnamed (parameter : Tree) : Bool :=
  parameter.kind = .parameterDeclaration && (parameter.child? .name).isNone

def isBare (parameter : Tree) : Bool :=
  isUnnamed parameter && (parameter.child? .type).any fun type => type.kind = .typeIdentifier

/-- Whether a function type is written as its keyword and one type in parentheses. -/
def isSlim (type : Tree) : Bool :=
  type.kind = .functionType && (type.child? .parameters).any (fun list => isLoneType list.children)
    && (type.child? .result).all fun list =>
      list.kind = .parameterList && (parameterTrees list.children).isEmpty

/-- Whether no word alone comes before a type that may be read as a name and its type. -/
def isSteady : List Tree → Bool
  | first :: second :: rest =>
      !(isBare first && isUnnamed second && (second.child? .type).any isSlim)
        && isSteady (second :: rest)
  | _ => true

def isSpared (kind : Kind) (children : List Tree) : Bool :=
  match kind with
  | .fieldDeclaration => !children.any (isMarkIn ["*"])
  | .selectorExpression => !children.any fun child => child.kind = .intLiteral
  | .parameterList => isSteady (parameterTrees children)
  | _ => true

/-! Properties of all nodes of a tree. -/

mutual

def everywhere (holds : Kind → List Tree → Bool) : Tree → Bool
  | .leaf _ _ _ => true
  | .node kind _ children => holds kind children && everywhereAll holds children

def everywhereAll (holds : Kind → List Tree → Bool) : List Tree → Bool
  | [] => true
  | tree :: rest => everywhere holds tree && everywhereAll holds rest

end

/-- Whether a source is made of declarations that are laid out anew, and of nothing else. -/
def isLaid (source : Source) : Bool :=
  source.declarations.all fun tree =>
    declarationKinds.contains tree.kind && everywhere isBuilt tree

/-- Whether a source has none of the forms that are not preserved. -/
def isSpare (source : Source) : Bool := source.declarations.all (everywhere isSpared)

def isUncommented (source : Source) : Bool :=
  (Tree.tokensOf source.trees).all (fun token => (token.lead.filterMap Gap.comment?).isEmpty)
    && (source.trailing.filterMap Gap.comment?).isEmpty

end InterfaceMocks.Preservation
