import InterfaceMocks.Grammar.Types

/-!
The grammar of expressions.
-/

namespace InterfaceMocks.Grammar.Expressions

open InterfaceMocks.Syntax
open InterfaceMocks.Grammar.Types (anyName string qualifiedName plainName)
open Gram

def expression (mode : Mode) : Form := rule (.operation .disjunction mode)

def marks (texts : List String) : Form := choice (texts.map punct)

/-- The operators of a level. Where `++`, `--` and `<-` cannot follow, they are read as an operator
and the start of the operand after it. -/
def operators (mode : Mode) : Level → Form
  | .disjunction => punct "||"
  | .conjunction => punct "&&"
  | .comparison =>
      let exact : Form := marks ["==", "!=", "<=", ">=", "<", ">"]
      if mode.edge then exact else alt exact (leaf .mark (.opening "<"))
  | .sum =>
      let exact : Form := marks ["+", "-", "|", "^"]
      if mode.edge then exact
      else choice [exact, leaf .mark (.opening "+"), leaf .mark (.opening "-")]
  | .product => marks ["*", "/", "%", "<<", ">>", "&^", "&"]

def tighter (mode : Mode) : Level → Form
  | .disjunction => rule (.operation .conjunction mode)
  | .conjunction => rule (.operation .comparison mode)
  | .comparison => rule (.operation .sum mode)
  | .sum => rule (.operation .product mode)
  | .product => rule (.unary mode)

def operation (level : Level) (mode : Mode) : Form :=
  leftward (tighter mode level) <| node .binaryExpression <| sequence
    [as .left held, as .operator (operators mode level), as .right (tighter mode.inner level)]

def unaryOperator : Form :=
  choice <| ["+", "-", "!", "^", "*", "&", "<-"].map fun text => leaf .mark (.opening text)

/-- An operator that also starts a type is first taken for that. -/
def unary (mode : Mode) : Form :=
  alt (rule (.primary mode))
    (node .unaryExpression <|
      seq (as .operator unaryOperator) (as .operand (rule (.unary mode.inner))))

def list : Form := node .expressionList (separated (punct ",") (expression .plain))

def argument : Form :=
  hold (expression .plain) (alt (node .variadicArgument (seq held (punct "..."))) held)

def arguments : Form :=
  node .argumentList <| sequence
    [punct "(", optional (seq (separated (punct ",") argument) (optional (punct ","))), punct ")"]

def typeFirstArguments : Form :=
  node .argumentList <| sequence
    [punct "(",
     optional <| sequence
       [rule .type, many (seq (punct ",") (expression .plain)), optional (punct ",")],
     punct ")"]

def selector : Form :=
  node .selectorExpression <| sequence
    [as .operand held, punct ".", as .field (anyName .fieldIdentifier)]

def assertion (mode : Mode) : Form :=
  let asserted : Form := as .type (rule .type)
  node .typeAssertionExpression <| sequence
    [as .operand held, punct ".", punct "(",
     if mode.guards then seq (absent (seq (keyword "type") (punct ")"))) asserted else asserted,
     punct ")"]

def call : Form :=
  node .callExpression <| seq (as .function held) (as .arguments (rule .arguments))

def instantiatedCall : Form :=
  node .callExpression <| sequence
    [as .function held, as .typeArguments (rule .typeOperandArguments),
     as .arguments (rule .arguments)]

def index : Form :=
  node .indexExpression <| sequence
    [as .operand held, punct "[", as .index (expression .plain), punct "]"]

def slice : Form :=
  let part : Form := expression .plain
  alt
    (node .sliceExpression <| sequence
      [as .operand held, punct "[", optional part, punct ":", optional part, punct "]"])
    (node .sliceExpression <| sequence
      [as .operand held, punct "[", optional part, punct ":", part, punct ":", part, punct "]"])

def primary (mode : Mode) : Form :=
  leftward (rule (.operand mode)) <|
    choice [selector, assertion mode, call, instantiatedCall, index, slice]

def literal : Form :=
  choice
    [string,
     leaf .intLiteral (.literal .int), leaf .floatLiteral (.literal .float),
     leaf .imaginaryLiteral (.literal .imaginary), leaf .runeLiteral (.literal .rune),
     leaf .nilLiteral (.keyword "nil"), leaf .trueLiteral (.keyword "true"),
     leaf .falseLiteral (.keyword "false"), leaf .iota (.keyword "iota")]

def allocator : Form := leaf .identifier (.oneOf ["new", "make"])

/-- Calls of `new` and `make` take a type wherever they are called. -/
def allocation : Form :=
  alt
    (node .callExpression <| sequence
      [as .function allocator, joined, as .arguments typeFirstArguments])
    (sequence [allocator, absent (seq joined (punct "("))])

def functionLiteral : Form :=
  node .funcLiteral <| sequence
    [keyword "func", Types.signature, as .body (rule .block)]

/-!
Types where an expression might stand as well. Words that start an expression are no names of types
there. A type that is more than a name is not cut short by the end of a line, as an expression would
be.
-/

def qualified : Form := qualifiedName expressionWords

def name : Form := plainName expressionWords

def genericName : Form :=
  let arguments : Form := as .typeArguments (rule .typeArguments)
  alt (node .genericType <| sequence [as .type qualified, arguments])
    (node .genericType <| sequence [as .type name, joined, arguments])

def pointerTo (target : Form) : Form := node .pointerType (seq (punct "*") target)

def inParentheses (target : Form) : Form :=
  node .parenthesizedType <| sequence [punct "(", target, punct ")"]

def typeOperand : Form :=
  choice
    [pointerTo (rule .typeOperand), Types.markedType, genericName, qualified, name,
     inParentheses (rule .typeOperand)]

def typeOperandArguments : Form :=
  node .typeArguments <| sequence
    [punct "[", node .typeElement (separated (punct "|") (rule .typeOperand)),
     many (seq (punct ",") (rule .typeElement)), optional (punct ","), punct "]"]

def markedCore : Form :=
  choice
    [Types.markedType, pointerTo (rule .markedCore), inParentheses (rule .markedCore)]

def genericCore : Form :=
  choice [genericName, pointerTo (rule .genericCore), inParentheses (rule .genericCore)]

/-- A name, perhaps after some stars, that the end of a line does not cut off. -/
def wholeName : Form :=
  sequence
    [many (punct "*"), leaf .mark (.name expressionWords), alt (seq joined (punct ".")) joined]

def literalBody : Form := as .body (rule .literalValue)

def heldLiteral : Form := node .compositeLiteral (seq held literalBody)

def heldConversion : Form :=
  node .typeConversionExpression <| sequence
    [held, punct "(", as .operand (expression .plain), optional (punct ","), punct ")"]

def genericConversion : Form :=
  seq (ahead (alt wholeName (seq (many (punct "*")) (punct "("))))
    (hold (as .type (rule .genericCore)) heldConversion)

def typesInBrackets : Form :=
  sequence
    [punct "[", separated (punct ",") (rule .type), optional (punct ","), punct "]"]

def heldInstance : Form := node .typeInstantiationExpression (seq held typesInBrackets)

def implicitArray : Form :=
  node .implicitLengthArrayType <| sequence
    [punct "[", punct "...", punct "]", as .element (rule .type)]

/-- Literals, conversions and instances whose type is known from its first token. -/
def marked : Form :=
  choice
    [hold (as .type implicitArray) heldLiteral,
     hold (as .type (choice [Types.slice, Types.array, Types.mapType, Types.struct]))
       (choice [heldLiteral, heldConversion, heldInstance]),
     hold (as .type (rule .markedCore)) (alt heldConversion heldInstance)]

/-- How the header of a statement goes on after a literal: with its block, or with an operator that
no statement starts with, or with any on the same line. -/
def headerGoesOn : Form :=
  choice
    [punct "\x7b",
     marks
       [".", "||", "&&", "==", "!=", "<", "<=", ">", ">=", "|", "/", "%", "<<", ">>", "&^", ",",
        "=", ":=", "++", "--"],
     choice (["(", "[", "*", "&", "+", "-", "^", "<-"].map fun text => leaf .mark (.sameLine text))]

def namedLiteral : Braces → Form
  | .anyName =>
      alt (hold (as .type (alt genericName qualified)) heldLiteral)
        (node .compositeLiteral <| sequence [as .type name, joined, literalBody])
  | .longName => hold (as .type (alt genericName qualified)) heldLiteral
  | .header => seq (hold (as .type (alt genericName qualified)) heldLiteral) (ahead headerGoesOn)

/-- Brackets that cannot be an index: several types, or one that is not also an expression. -/
def severalTypes : Form :=
  sequence
    [punct "[",
     alt
       (sequence
         [rule .type, punct ",", optional (separated (punct ",") (rule .type)),
          optional (punct ",")])
       (seq (ahead (alt Types.markedType (alt (punct "*") (punct "(")))) (rule .type)),
     punct "]"]

/-- An instance of a type that may also be read as an expression, where it is not called. -/
def instantiated : Form :=
  let shorter : Form :=
    choice
      [as .type qualified, as .type (inParentheses (rule .typeOperand)),
       seq (as .type name) joined]
  let form : Form :=
    alt (seq (as .type genericName) typesInBrackets) (seq shorter severalTypes)
  seq (absent (seq form (punct "("))) (node .typeInstantiationExpression form)

def parenthesized : Form :=
  node .parenthesizedExpression <| sequence [punct "(", expression .plain, punct ")"]

def operand (mode : Mode) : Form :=
  choice
    [literal, allocation, functionLiteral, marked,
     genericConversion, namedLiteral mode.braces, instantiated, parenthesized,
     leaf .identifier (.name expressionWords)]

def element : Form :=
  hold (rule .literalElement) <|
    alt
      (node .keyedElement <| sequence
        [as .key held, punct ":", as .value (rule .literalElement)])
      held

def literalValue : Form :=
  node .literalValue <| sequence
    [punct "\x7b", optional (separated (punct ",") element), optional (punct ","), punct "\x7d"]

def literalElement : Form :=
  node .literalElement (alt (expression .plain) (rule .literalValue))

end InterfaceMocks.Grammar.Expressions
