import InterfaceMocks.Grammar.Expressions

/-!
The grammar of statements and declarations, and of a whole source. A source is a sequence of
declarations and statements, each with a terminator after it.
-/

namespace InterfaceMocks.Grammar.Statements

open InterfaceMocks.Syntax
open InterfaceMocks.Grammar.Types (anyName string)
open InterfaceMocks.Grammar.Expressions (expression marks)
open Gram

def heldList : Form :=
  node .expressionList (seq held (many (seq (punct ",") (expression .plain))))

def listFrom (first rest : Mode) : Form :=
  node .expressionList <| seq (expression first) (many (seq (punct ",") (expression rest)))

def assignmentOperator : Form :=
  marks ["=", "*=", "/=", "%=", "<<=", ">>=", "&=", "&^=", "+=", "-=", "|=", "^="]

/-- A simple statement. Its first expression is read in one mode, those to the right of an operator
in another, and the first that is given a name in a third. -/
def simple (first right named : Mode) : Form :=
  hold (expression first) <| choice
    [node .incStatement (seq held (punct "++")),
     node .decStatement (seq held (punct "--")),
     node .sendStatement <| sequence [held, punct "<-", as .value (expression right)],
     node .assignmentStatement <| sequence
       [as .left heldList, as .operator assignmentOperator, as .right (listFrom right right)],
     node .shortVarDeclaration <| sequence
       [as .left heldList, punct ":=", as .right (listFrom named right)],
     seq (node .expressionStatement held) (absent (punct ":"))]

def initializer : Form := seq (simple .initial .plain .plain) (punct ";")

def block : Form :=
  node .block <| sequence [punct "\x7b", optional (rule (.statements .block)), punct "\x7d"]

def label (place : Place) : Form :=
  as .label (leaf .labelName (.name (expressionWords ++ place.reserved)))

def labeled (place : Place) : Form :=
  node .labeledStatement <| sequence
    [label place, joined, punct ":", rule (.statement place.afterLabel)]

def emptyLabel (place : Place) : Form :=
  node .labeledStatement <| sequence [label place, punct ":"]

def ifStatement : Form :=
  node .ifStatement <| sequence
    [keyword "if",
     alt (sequence [initializer, expression .header, rule .block])
       (sequence [expression .leadingHeader, rule .block]),
     optional (seq (keyword "else") (alt (rule .block) (rule .ifStatement)))]

def notRange : Form := absent (keyword "range")

def rangeClause : Form :=
  node .rangeClause <| sequence
    [optional <| sequence
       [notRange, as .left (listFrom .initial .plain), marks ["=", ":="]],
     keyword "range", as .right (expression .header)]

def forClause : Form :=
  node .forClause <| sequence
    [optional (seq notRange (simple .initial .plain .plain)), punct ";",
     optional (expression .plain), punct ";",
     optional (simple .leadingHeader .header .header)]

def forStatement : Form :=
  let body : Form := as .body (rule .block)
  node .forStatement <| seq (keyword "for") <| choice
    [seq rangeClause body, seq forClause body,
     sequence [notRange, expression .leadingHeader, body], body]

def caseBody : Form := seq (punct ":") (optional (rule (.statements .clause)))

def defaultCase : Form := node .defaultCase (seq (keyword "default") caseBody)

def cases (one : Form) : Form :=
  sequence [punct "\x7b", many (alt one defaultCase), punct "\x7d"]

def expressionCase : Form :=
  node .expressionCase <| sequence [keyword "case", as .value Expressions.list, caseBody]

def typeCase : Form :=
  node .typeCase <| sequence
    [keyword "case", separated (punct ",") (as .type (rule .type)), caseBody]

def switchInitializer : Form := seq (simple .initialGuard .plain .bound) (punct ";")

def typeGuard (naming value : Mode) : Form :=
  let type : Form := sequence [punct ".", punct "(", keyword "type", punct ")"]
  alt
    (sequence
      [as .alias (listFrom naming .plain), punct ":=", as .value (expression .bound), type])
    (seq (as .value (expression value)) type)

def typeSwitch : Form :=
  node .typeSwitchStatement <| seq (keyword "switch") <| alt
    (sequence [switchInitializer, typeGuard .naming .guard, cases typeCase])
    (seq (typeGuard .initialGuard .leadingGuard) (cases typeCase))

def expressionSwitch : Form :=
  node .expressionSwitchStatement <| seq (keyword "switch") <| alt
    (sequence [switchInitializer, optional (as .value (expression .guard)), cases expressionCase])
    (seq (optional (as .value (expression .leadingGuard))) (cases expressionCase))

def communication : Form :=
  node .communicationCase <| sequence
    [keyword "case",
     alt
       (node .sendStatement <| sequence
         [expression .leading, punct "<-", as .value (expression .plain)])
       (node .receiveStatement <| sequence
         [optional (seq (as .left (listFrom .leading .plain)) (marks ["=", ":="])),
          as .right (expression .plain)]),
     caseBody]

def select : Form :=
  node .selectStatement (seq (keyword "select") (cases communication))

def constSpec : Form :=
  node .constSpec <| sequence
    [separated (punct ",") (as .name (anyName .identifier)),
     optional <| sequence
       [optional (as .type (rule .type)), punct "=", as .value Expressions.list]]

def varSpec : Form :=
  let value : Form := seq (punct "=") (as .value Expressions.list)
  node .varSpec <| seq
    (separated (punct ",") (as .name (anyName .identifier)))
    (alt (seq (as .type (rule .type)) (optional value)) value)

def typeAlias : Form :=
  node .typeAlias <| sequence
    [as .name (anyName .typeIdentifier), punct "=", as .type (rule .type)]

/-- The start of a single type parameter whose constraint names more than words of its own: one of
its types has arguments, or, outside a group, all have a package. -/
def longConstraint (grouped : Bool) : Form :=
  let generic : Form := Types.wrapped Expressions.genericName
  let someGeneric : Form :=
    sequence
      [many (sequence [absent generic, rule .type, punct "|"]), generic,
       many (seq (punct "|") (rule .type)), punct "]"]
  let allLong : Form :=
    seq
      (separated (punct "|") (Types.wrapped (alt Expressions.genericName Expressions.qualified)))
      (punct "]")
  sequence
    [punct "[", leaf .mark (.name expressionWords),
     if grouped then someGeneric else alt allLong someGeneric]

/-- A bracket after the name is the length of an array where it can be and a constraint would be
short, else type parameters. So a word that starts an expression cannot be the first of these. -/
def typeSpec (grouped : Bool) : Form :=
  let parametrized : Form :=
    seq (as .typeParameters (Types.typeParameters expressionWords)) (as .type (rule .type))
  alt typeAlias <| node .typeSpec <| seq
    (as .name (anyName .typeIdentifier))
    (choice
      [seq (ahead (longConstraint grouped)) parametrized, as .type (rule .type), parametrized])

def group (spec : Form) : Form :=
  sequence [punct "(", many (seq spec terminator), punct ")"]

def declaration : Form :=
  choice
    [node .constDeclaration <|
       seq (keyword "const") (alt (group (rule .constSpec)) (rule .constSpec)),
     node .typeDeclaration <|
       seq (keyword "type") (alt (group (rule (.typeSpec true))) (rule (.typeSpec false))),
     node .varDeclaration <|
       seq (keyword "var") (alt (node .varSpecList (group (rule .varSpec))) (rule .varSpec))]

def notClause (place : Place) : Form := absent (leaf .mark (.oneOf place.clauseWords))

def jump (kind : Kind) (word : String) (place : Place) : Form :=
  node kind (seq (keyword word) (optional (seq (notClause place) (anyName .labelName))))

def statement (place : Place) : Form :=
  choice
    [labeled place, rule .declaration,
     node .returnStatement <|
       seq (keyword "return") (optional (seq (notClause place) Expressions.list)),
     node .goStatement (seq (keyword "go") (expression .plain)),
     node .deferStatement (seq (keyword "defer") (expression .plain)),
     rule .ifStatement, forStatement, typeSwitch, expressionSwitch, select,
     leaf .fallthroughStatement (.keyword "fallthrough"),
     jump .breakStatement "break" place, jump .continueStatement "continue" place,
     node .gotoStatement (seq (keyword "goto") (anyName .labelName)),
     rule .block,
     leaf .emptyStatement (.mark ";"),
     seq (absent (leaf .mark (.oneOf place.reserved))) (simple .leading .plain .plain)]

def statements (place : Place) : Form :=
  alt
    (sequence
      [rule (.statement place), many (seq terminator (rule (.statement place))),
       optional (seq terminator (optional (rule (.emptyLabel place))))])
    (rule (.emptyLabel place))

def package : Form :=
  node .packageClause (seq (keyword "package") (anyName .packageIdentifier))

def importName : Form :=
  as .name <| choice
    [leaf .dotName (.mark "."), leaf .blankName (.keyword "_"), anyName .packageIdentifier]

def importSpec : Form :=
  node .importSpec (seq (optional importName) (as .path string))

def importList : Form :=
  node .importSpecList <| sequence
    [punct "(", Types.terminated (rule .importSpec), punct ")"]

def importDeclaration : Form :=
  node .importDeclaration (seq (keyword "import") (alt importList (rule .importSpec)))

def body : Form := optional (as .body (rule .block))

def functionDeclaration : Form :=
  node .functionDeclaration <| sequence
    [keyword "func", as .name (anyName .identifier),
     optional (as .typeParameters (Types.typeParameters [])), Types.signature, body]

def methodDeclaration : Form :=
  node .methodDeclaration <| sequence
    [keyword "func", as .receiver (rule .parameters),
     as .name (leaf .fieldIdentifier (.name typeWords)), Types.signature, body]

/-- The start of a method, which no statement has. -/
def methodStart : Form :=
  sequence
    [keyword "func", rule .parameters, leaf .mark (.name typeWords), punct "("]

def source : Form :=
  many <| seq
    (choice
      [package, importDeclaration, functionDeclaration, methodDeclaration,
       seq (absent methodStart) (rule (.statement .top))])
    terminator

end InterfaceMocks.Grammar.Statements

namespace InterfaceMocks.Grammar

def rules : Rule → Form
  | .type => Types.type
  | .simpleType => Types.simpleType
  | .typeElement => Types.typeElement
  | .typeArguments => Types.typeArguments
  | .typeOperand => Expressions.typeOperand
  | .typeOperandArguments => Expressions.typeOperandArguments
  | .markedCore => Expressions.markedCore
  | .genericCore => Expressions.genericCore
  | .parameters => Types.parameters
  | .field => Types.field
  | .interfaceElement => Types.interfaceElement
  | .operation level mode => Expressions.operation level mode
  | .unary mode => Expressions.unary mode
  | .primary mode => Expressions.primary mode
  | .operand mode => Expressions.operand mode
  | .arguments => Expressions.arguments
  | .literalValue => Expressions.literalValue
  | .literalElement => Expressions.literalElement
  | .statement place => Statements.statement place
  | .statements place => Statements.statements place
  | .emptyLabel place => Statements.emptyLabel place
  | .ifStatement => Statements.ifStatement
  | .block => Statements.block
  | .typeSpec grouped => Statements.typeSpec grouped
  | .constSpec => Statements.constSpec
  | .varSpec => Statements.varSpec
  | .importSpec => Statements.importSpec
  | .declaration => Statements.declaration

end InterfaceMocks.Grammar
