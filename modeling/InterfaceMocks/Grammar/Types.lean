import InterfaceMocks.Grammar.Rule

/-!
The grammar of types, parameters, fields and interfaces.
-/

namespace InterfaceMocks.Grammar.Types

open InterfaceMocks.Syntax
open Gram

def anyName (kind : Kind) : Form := leaf kind (.name [])

def string : Form :=
  alt (leaf .interpretedStringLiteral (.literal .quoted)) (leaf .rawStringLiteral (.literal .raw))

def plainName (reserved : List String) : Form := leaf .typeIdentifier (.name reserved)

def qualifiedName (reserved : List String) : Form :=
  node .qualifiedType <| sequence
    [as .package (leaf .packageIdentifier (.name reserved)), joined, punct ".",
     as .name (anyName .typeIdentifier)]

def generic (base : Form) : Form :=
  node .genericType <| sequence
    [as .type base, joined, as .typeArguments (rule .typeArguments)]

def genericName (reserved : List String) : Form :=
  alt (generic (qualifiedName reserved)) (generic (plainName reserved))

def namedType (reserved : List String) : Form :=
  choice
    [generic (qualifiedName reserved), qualifiedName reserved,
     generic (plainName reserved), plainName reserved]

def pointer : Form := node .pointerType (seq (punct "*") (rule .type))

def slice : Form :=
  node .sliceType <| sequence [punct "[", punct "]", as .element (rule .type)]

def array : Form :=
  node .arrayType <| sequence
    [punct "[", as .length (rule (.operation .disjunction .plain)), punct "]",
     as .element (rule .type)]

def mapType : Form :=
  node .mapType <| sequence
    [keyword "map", punct "[", as .key (rule .type), punct "]", as .value (rule .type)]

def channel : Form :=
  choice
    [node .channelType <| sequence [keyword "chan", as .value (rule .type)],
     node .channelType <| sequence [keyword "chan", punct "<-", as .value (rule .type)],
     node .channelType <| sequence [punct "<-", keyword "chan", as .value (rule .type)]]

/-- A list of results in parentheses, or the type of the only one. What could start either is
never left to what follows. -/
def result : Form :=
  alt (as .result (alt (rule .parameters) (rule .simpleType)))
    (absent (alt (choice (["(", "[", "*", "~"].map punct)) (leaf .mark (.oneOf typeWords))))

def signature : Form := seq (as .parameters (rule .parameters)) result

def function : Form := node .functionType (seq (keyword "func") signature)

def negated : Form := node .negatedType (seq (punct "~") (rule .type))

/-- Items with a terminator between each two, and perhaps one after the last. -/
def terminated (item : Form) : Form :=
  optional <| sequence [item, many (seq terminator item), optional terminator]

def fieldList : Form :=
  node .fieldDeclarationList <| sequence [punct "\x7b", terminated (rule .field), punct "\x7d"]

def struct : Form := node .structType (seq (keyword "struct") fieldList)

def interface : Form :=
  node .interfaceType <| sequence
    [keyword "interface", punct "\x7b", terminated (rule .interfaceElement), punct "\x7d"]

def parenthesized : Form :=
  node .parenthesizedType <| sequence [punct "(", rule .type, punct ")"]

/-- Types that a keyword or a mark makes known from their first token. -/
def markedType : Form :=
  choice [slice, array, mapType, struct, interface, channel, function, negated]

def simpleType : Form :=
  choice [pointer, markedType, namedType typeWords]

def type : Form := alt (rule .simpleType) parenthesized

def typeElement : Form := node .typeElement (separated (punct "|") (rule .type))

def typeArguments : Form :=
  node .typeArguments <| sequence
    [punct "[", separated (punct ",") (rule .typeElement), optional (punct ","), punct "]"]

/-- Type parameters that share a constraint; some words cannot be the first name. -/
def typeParameter (reserved : List String) : Form :=
  node .typeParameterDeclaration <| sequence
    [as .name (leaf .identifier (.name reserved)),
     many (seq (punct ",") (as .name (anyName .identifier))),
     as .type (node .typeConstraint (separated (punct "|") (rule .type)))]

def typeParameters (reserved : List String) : Form :=
  node .typeParameterList <| sequence
    [punct "[", typeParameter reserved, many (seq (punct ",") (typeParameter [])),
     optional (punct ","), punct "]"]

/-- A named type behind stars and in parentheses, which need not match. -/
def wrapped (named : Form) : Form :=
  sequence [many (alt (punct "*") (punct "(")), named, many (punct ")")]

def beforeGenericKey : Form :=
  sequence
    [leaf .mark (.name typeWords), punct ",",
     optional (seq (leaf .mark (.name ["map"])) (punct ",")),
     keyword "map", punct "[", wrapped (genericName typeWords), punct "]"]

/-- Names that share a type. After the first name and a comma any word is a name, but for a map that
cannot well be an array. -/
def namedParameter : Form :=
  sequence
    [absent beforeGenericKey,
     node .parameterDeclaration <| sequence
       [as .name (leaf .identifier (.name typeWords)),
        many (seq (punct ",") (as .name (anyName .identifier))),
        as .type (rule .type)],
     ahead (alt (punct ",") (punct ")"))]

def variadicParameter : Form :=
  node .variadicParameterDeclaration <| sequence
    [optional (as .name (leaf .identifier (.name typeWords))), punct "...",
     as .type (rule .type)]

def lonelyType : Form := node .parameterDeclaration (as .type (rule .type))

def parameter : Form := choice [namedParameter, variadicParameter, lonelyType]

def parameters : Form :=
  node .parameterList <| sequence
    [punct "(", optional (separated (punct ",") parameter), optional (punct ","), punct ")"]

def tag : Form := optional (as .tag string)

/-- An embedded generic type, where nothing but a tag comes before the end of the field. -/
def embeddedGeneric : Form :=
  sequence
    [optional (punct "*"), as .type (genericName []), tag, ahead (alt terminator (punct "\x7d"))]

def namedField : Form :=
  sequence
    [as .name (anyName .fieldIdentifier), joined,
     many (seq (punct ",") (as .name (anyName .fieldIdentifier))), as .type (rule .type), tag]

def embeddedField : Form :=
  sequence [optional (punct "*"), as .type (namedType []), tag]

def field : Form :=
  choice
    [node .fieldDeclaration embeddedGeneric, node .fieldDeclaration namedField,
     node .fieldDeclaration embeddedField]

def method : Form :=
  node .methodElement <| sequence
    [as .name (leaf .fieldIdentifier (.name typeWords)), joined, signature]

def interfaceElement : Form := alt method (rule .typeElement)

end InterfaceMocks.Grammar.Types
