import InterfaceMocks.Descriptor.Package
import InterfaceMocks.Extraction.Types
import InterfaceMocks.Grammar.Source

/-!
What one source file contributes to its package: the name of the package, the interfaces it declares,
and its imports if it declares an interface at all.
-/

namespace InterfaceMocks.Extraction

open InterfaceMocks.Syntax
open InterfaceMocks.Grammar (Source)

structure FileContents where
  package : String
  imports : Imports
  interfaces : List Interface
  deriving DecidableEq

/-- One parameter for each name of a declaration, or one without a name. -/
def declared (names : List String) (type : TypeExpr) : List Param :=
  if names.isEmpty then [⟨"", type⟩] else names.map fun name => ⟨name, type⟩

/-- The parameters of a declaration. The type of a variadic one is never recognised. -/
def declaredParams (tree : Tree) : List Param :=
  let names := (tree.childrenWith .name).map Tree.text
  match tree.kind with
  | .parameterDeclaration =>
      declared names (((tree.child? .type).map typeOf).getD .unrecognised)
  | .variadicParameterDeclaration => declared names .unrecognised
  | _ => []

def paramsOf (list : Tree) : List Param := list.children.flatMap declaredParams

def resultsOf (result : Tree) : List Param :=
  if result.kind = .parameterList then paramsOf result else [⟨"", typeOf result⟩]

def methodOf? (element : Tree) : Option Method :=
  if element.kind = .methodElement then
    (element.child? .name).map fun name =>
      { name := name.text
        args := ((element.child? .parameters).map paramsOf).getD []
        returns := ((element.child? .result).map resultsOf).getD [] }
  else none

def interfaceOf? (spec : Tree) : Option Interface :=
  match spec.child? .type, spec.child? .name with
  | some type, some name =>
      if type.kind = .interfaceType then
        some ⟨name.text, type.children.filterMap methodOf?⟩
      else none
  | _, _ => none

def importSpecs (declaration : Tree) : List Tree :=
  declaration.childrenOf .importSpec
    ++ (declaration.childrenOf .importSpecList).flatMap (Tree.childrenOf .importSpec)

def isQuote (c : Char) : Bool := c == '\x22' || c == '\x60'

def unquote (text : String) : String :=
  String.ofList ((text.toList.dropWhile isQuote).reverse.dropWhile isQuote).reverse

def importOf? (spec : Tree) : Option (String × String) :=
  (spec.child? .path).map fun path =>
    (unquote path.text, ((spec.child? .name).map Tree.text).getD "")

def importsOf (declaration : Tree) : List (String × String) :=
  if declaration.kind = .importDeclaration then
    (importSpecs declaration).filterMap importOf?
  else []

def interfacesOf (declaration : Tree) : List Interface :=
  if declaration.kind = .typeDeclaration then
    (declaration.childrenOf .typeSpec).filterMap interfaceOf?
  else []

def packageName? (declaration : Tree) : Option String :=
  if declaration.kind = .packageClause then
    (declaration.childrenOf .packageIdentifier).head?.map Tree.text
  else none

/-- The contents of a file. Of several package clauses the last counts. -/
def contents (source : Source) : FileContents :=
  let declarations := source.declarations
  let interfaces := declarations.flatMap interfacesOf
  { package := ((declarations.filterMap packageName?).getLast?).getD ""
    imports :=
      if interfaces.isEmpty then .empty
      else Imports.empty.extend (declarations.flatMap importsOf)
    interfaces := interfaces }

end InterfaceMocks.Extraction
