/-!
The kinds of nodes of a syntax tree, and the roles a node can have for its parent. Punctuation,
operators and keywords are nodes of the kind `mark`, which is the only one that is not named.
-/

namespace InterfaceMocks.Syntax

inductive Kind where
  | mark
  | packageClause
  | importDeclaration
  | importSpec
  | importSpecList
  | dotName
  | blankName
  | constDeclaration
  | constSpec
  | varDeclaration
  | varSpec
  | varSpecList
  | functionDeclaration
  | methodDeclaration
  | typeParameterList
  | typeParameterDeclaration
  | parameterList
  | parameterDeclaration
  | variadicParameterDeclaration
  | typeDeclaration
  | typeSpec
  | typeAlias
  | expressionList
  | parenthesizedType
  | genericType
  | typeArguments
  | pointerType
  | arrayType
  | implicitLengthArrayType
  | sliceType
  | structType
  | negatedType
  | fieldDeclarationList
  | fieldDeclaration
  | interfaceType
  | methodElement
  | typeElement
  | typeConstraint
  | mapType
  | channelType
  | functionType
  | qualifiedType
  | block
  | emptyStatement
  | expressionStatement
  | sendStatement
  | receiveStatement
  | incStatement
  | decStatement
  | assignmentStatement
  | shortVarDeclaration
  | labeledStatement
  | fallthroughStatement
  | breakStatement
  | continueStatement
  | gotoStatement
  | returnStatement
  | goStatement
  | deferStatement
  | ifStatement
  | forStatement
  | forClause
  | rangeClause
  | expressionSwitchStatement
  | expressionCase
  | defaultCase
  | typeSwitchStatement
  | typeCase
  | selectStatement
  | communicationCase
  | unaryExpression
  | binaryExpression
  | selectorExpression
  | indexExpression
  | sliceExpression
  | callExpression
  | typeAssertionExpression
  | typeConversionExpression
  | typeInstantiationExpression
  | compositeLiteral
  | literalValue
  | literalElement
  | keyedElement
  | funcLiteral
  | parenthesizedExpression
  | argumentList
  | variadicArgument
  | identifier
  | typeIdentifier
  | fieldIdentifier
  | packageIdentifier
  | labelName
  | intLiteral
  | floatLiteral
  | imaginaryLiteral
  | runeLiteral
  | interpretedStringLiteral
  | rawStringLiteral
  | nilLiteral
  | trueLiteral
  | falseLiteral
  | iota
  deriving DecidableEq, Repr

def Kind.label : Kind → String
  | .mark => ""
  | .packageClause => "package_clause"
  | .importDeclaration => "import_declaration"
  | .importSpec => "import_spec"
  | .importSpecList => "import_spec_list"
  | .dotName => "dot"
  | .blankName => "blank_identifier"
  | .constDeclaration => "const_declaration"
  | .constSpec => "const_spec"
  | .varDeclaration => "var_declaration"
  | .varSpec => "var_spec"
  | .varSpecList => "var_spec_list"
  | .functionDeclaration => "function_declaration"
  | .methodDeclaration => "method_declaration"
  | .typeParameterList => "type_parameter_list"
  | .typeParameterDeclaration => "type_parameter_declaration"
  | .parameterList => "parameter_list"
  | .parameterDeclaration => "parameter_declaration"
  | .variadicParameterDeclaration => "variadic_parameter_declaration"
  | .typeDeclaration => "type_declaration"
  | .typeSpec => "type_spec"
  | .typeAlias => "type_alias"
  | .expressionList => "expression_list"
  | .parenthesizedType => "parenthesized_type"
  | .genericType => "generic_type"
  | .typeArguments => "type_arguments"
  | .pointerType => "pointer_type"
  | .arrayType => "array_type"
  | .implicitLengthArrayType => "implicit_length_array_type"
  | .sliceType => "slice_type"
  | .structType => "struct_type"
  | .negatedType => "negated_type"
  | .fieldDeclarationList => "field_declaration_list"
  | .fieldDeclaration => "field_declaration"
  | .interfaceType => "interface_type"
  | .methodElement => "method_elem"
  | .typeElement => "type_elem"
  | .typeConstraint => "type_constraint"
  | .mapType => "map_type"
  | .channelType => "channel_type"
  | .functionType => "function_type"
  | .qualifiedType => "qualified_type"
  | .block => "block"
  | .emptyStatement => "empty_statement"
  | .expressionStatement => "expression_statement"
  | .sendStatement => "send_statement"
  | .receiveStatement => "receive_statement"
  | .incStatement => "inc_statement"
  | .decStatement => "dec_statement"
  | .assignmentStatement => "assignment_statement"
  | .shortVarDeclaration => "short_var_declaration"
  | .labeledStatement => "labeled_statement"
  | .fallthroughStatement => "fallthrough_statement"
  | .breakStatement => "break_statement"
  | .continueStatement => "continue_statement"
  | .gotoStatement => "goto_statement"
  | .returnStatement => "return_statement"
  | .goStatement => "go_statement"
  | .deferStatement => "defer_statement"
  | .ifStatement => "if_statement"
  | .forStatement => "for_statement"
  | .forClause => "for_clause"
  | .rangeClause => "range_clause"
  | .expressionSwitchStatement => "expression_switch_statement"
  | .expressionCase => "expression_case"
  | .defaultCase => "default_case"
  | .typeSwitchStatement => "type_switch_statement"
  | .typeCase => "type_case"
  | .selectStatement => "select_statement"
  | .communicationCase => "communication_case"
  | .unaryExpression => "unary_expression"
  | .binaryExpression => "binary_expression"
  | .selectorExpression => "selector_expression"
  | .indexExpression => "index_expression"
  | .sliceExpression => "slice_expression"
  | .callExpression => "call_expression"
  | .typeAssertionExpression => "type_assertion_expression"
  | .typeConversionExpression => "type_conversion_expression"
  | .typeInstantiationExpression => "type_instantiation_expression"
  | .compositeLiteral => "composite_literal"
  | .literalValue => "literal_value"
  | .literalElement => "literal_element"
  | .keyedElement => "keyed_element"
  | .funcLiteral => "func_literal"
  | .parenthesizedExpression => "parenthesized_expression"
  | .argumentList => "argument_list"
  | .variadicArgument => "variadic_argument"
  | .identifier => "identifier"
  | .typeIdentifier => "type_identifier"
  | .fieldIdentifier => "field_identifier"
  | .packageIdentifier => "package_identifier"
  | .labelName => "label_name"
  | .intLiteral => "int_literal"
  | .floatLiteral => "float_literal"
  | .imaginaryLiteral => "imaginary_literal"
  | .runeLiteral => "rune_literal"
  | .interpretedStringLiteral => "interpreted_string_literal"
  | .rawStringLiteral => "raw_string_literal"
  | .nilLiteral => "nil"
  | .trueLiteral => "true"
  | .falseLiteral => "false"
  | .iota => "iota"

/-- Literals that stand for one value: numbers, characters and strings. -/
def Kind.isBasicLiteral : Kind → Bool
  | .intLiteral | .floatLiteral | .imaginaryLiteral | .runeLiteral
  | .interpretedStringLiteral | .rawStringLiteral => true
  | _ => false

inductive Role where
  | plain
  | alias
  | arguments
  | body
  | element
  | field
  | function
  | index
  | key
  | label
  | left
  | length
  | name
  | operand
  | operator
  | package
  | parameters
  | path
  | receiver
  | result
  | right
  | tag
  | type
  | typeArguments
  | typeParameters
  | value
  deriving DecidableEq, Repr

end InterfaceMocks.Syntax
