import InterfaceMocks.Grammar.Gram

/-!
The names of the rules, and the words that are reserved where an expression, a type or a statement
starts. A word is reserved only where the grammar could take it for a keyword; everywhere else it is
an ordinary name.
-/

namespace InterfaceMocks.Grammar

/-- Binary operators, from the loosest to the tightest. -/
inductive Level where
  | disjunction
  | conjunction
  | comparison
  | sum
  | product
  deriving DecidableEq

inductive Braces where
  -- after any name
  | anyName
  -- after a name with a package or with arguments; after any other it opens a block
  | longName
  -- the same, as long as the header of a statement goes on after the literal
  | header
  deriving DecidableEq

/-- How an expression is read by where it stands: what a brace opens; where `guards`, that the form
`.(type)` is not an assertion; and at the `edge` of a statement, that the operators of statements may
follow. -/
structure Mode where
  braces : Braces
  guards : Bool
  edge : Bool
  deriving DecidableEq

namespace Mode

def plain : Mode := ⟨.anyName, false, false⟩

def leading : Mode := ⟨.anyName, false, true⟩

def header : Mode := ⟨.header, false, false⟩

def leadingHeader : Mode := ⟨.header, false, true⟩

/-- The first expression of such a statement, where more than a block comes after it. -/
def initial : Mode := ⟨.longName, false, true⟩

def guard : Mode := ⟨.header, true, false⟩

def leadingGuard : Mode := ⟨.header, true, true⟩

/-- The first expression of a switch, where more than its value comes after it. -/
def initialGuard : Mode := ⟨.longName, true, true⟩

/-- A name for the value of a switch, after its initial statement. -/
def naming : Mode := ⟨.longName, true, false⟩

def bound : Mode := ⟨.anyName, true, false⟩

/-- What follows an operator. A guard is never there. -/
def inner (mode : Mode) : Mode := { mode with guards := false }

end Mode

inductive Place where
  | top
  | block
  | clause
  deriving DecidableEq

inductive Rule where
  | type
  | simpleType
  | typeElement
  | typeArguments
  | typeOperand
  | typeOperandArguments
  | markedCore
  | genericCore
  | parameters
  | field
  | interfaceElement
  | operation (level : Level) (mode : Mode)
  | unary (mode : Mode)
  | primary (mode : Mode)
  | operand (mode : Mode)
  | arguments
  | literalValue
  | literalElement
  | statement (place : Place)
  | statements (place : Place)
  | emptyLabel (place : Place)
  | ifStatement
  | block
  -- a type with its name, alone or one of a group
  | typeSpec (grouped : Bool)
  | constSpec
  | varSpec
  | importSpec
  | declaration
  deriving DecidableEq

abbrev Form := Gram Rule

def typeWords : List String :=
  ["func", "map", "struct", "interface", "chan"]

def expressionWords : List String :=
  typeWords ++ ["new", "make", "nil", "true", "false", "iota"]

def statementWords : List String :=
  ["const", "type", "var", "return", "go", "defer", "if", "for", "switch", "select",
   "fallthrough", "break", "continue", "goto"]

def Place.clauseWords : Place → List String
  | .clause => ["case", "default"]
  | _ => []

def Place.reserved : Place → List String
  | .top => statementWords ++ ["package", "import"]
  | .block => statementWords
  | .clause => statementWords ++ Place.clause.clauseWords

/-- Where the statement after a label stands. A label at the top of a source is the start of a
statement already, so that no clause of the source can come next. -/
def Place.afterLabel : Place → Place
  | .top => .block
  | place => place

end InterfaceMocks.Grammar
