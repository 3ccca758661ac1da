import InterfaceMocks.Layout.Declarations
import InterfaceMocks.Proofs.Written.Texts

/-!
How written constructs are laid out: the canonical text does not depend on the white space that a
construct was written with.
-/

namespace InterfaceMocks.Written

open InterfaceMocks.Syntax
open InterfaceMocks.Layout

/-! White space is no comment. -/

@[simp] theorem gap_comments (space : String) : (gap space).filterMap Gap.comment? = [] := by
  by_cases none : space = "" <;> simp [gap, none, Gap.comment?]

theorem commentTexts_of_lead {tree : Tree} {space : String} (lead : tree.lead = gap space)
    (counted : Bool) : commentTexts counted tree = [] := by
  cases counted <;> simp [commentTexts, lead]

@[simp] theorem lead_leaf (kind : Kind) (role : Role) (space : String) (lexeme : Lexeme)
    (text : String) : (Tree.leaf kind role (token space lexeme text)).lead = gap space := by
  simp [Tree.lead, token]

@[simp] theorem lead_mark (space text : String) : (mark space text).lead = gap space :=
  lead_leaf ..

@[simp] theorem lead_keyword (space text : String) : (keyword space text).lead = gap space :=
  lead_leaf ..

@[simp] theorem lead_name (kind : Kind) (role : Role) (space text : String) :
    (name kind role space text).lead = gap space :=
  lead_leaf ..

@[simp] theorem text_leaf (kind : Kind) (role : Role) (token : Token) :
    (Tree.leaf kind role token).text = token.text := by
  simp [Tree.text, Token.textOf]

@[simp] theorem text_name (kind : Kind) (role : Role) (space text : String) :
    (name kind role space text).text = text := by
  simp [Tree.text, Token.textOf]

@[simp] theorem role_leaf (kind : Kind) (role : Role) (token : Token) :
    (Tree.leaf kind role token).role = role := rfl

@[simp] theorem role_node (kind : Kind) (role : Role) (children : List Tree) :
    (Syntax.Tree.node kind role children).role = role := rfl

@[simp] theorem kind_node (kind : Kind) (role : Role) (children : List Tree) :
    (Syntax.Tree.node kind role children).kind = kind := rfl

@[simp] theorem children_node (kind : Kind) (role : Role) (children : List Tree) :
    (Syntax.Tree.node kind role children).children = children := rfl

@[simp] theorem kind_mark (space text : String) : (mark space text).kind = .mark := rfl

@[simp] theorem kind_keyword (space text : String) : (keyword space text).kind = .mark := rfl

@[simp] theorem kind_name (kind : Kind) (role : Role) (space text : String) :
    (name kind role space text).kind = kind := rfl

@[simp] theorem role_mark (space text : String) : (mark space text).role = .plain := rfl

@[simp] theorem role_keyword (space text : String) : (keyword space text).role = .plain := rfl

@[simp] theorem role_name (kind : Kind) (role : Role) (space text : String) :
    (name kind role space text).role = role := rfl

@[simp] theorem isNamed_mark (space text : String) : (mark space text).isNamed = false := rfl

@[simp] theorem isNamed_keyword (space text : String) : (keyword space text).isNamed = false := rfl

/-- A node leads with what its first child leads with. -/
theorem lead_node {kind : Kind} {role : Role} {first : Tree} {rest : List Tree}
    (some : first.tokens ≠ []) : (Syntax.Tree.node kind role (first :: rest)).lead = first.lead := by
  obtain ⟨token, more, tokens⟩ := List.exists_cons_of_ne_nil some
  simp [Tree.lead, tokens]

@[simp] theorem role_type (role : Role) (space : String) (expr : TypeExpr) :
    (type role space expr).role = role := by
  cases expr with
  | array length element => cases length <;> rfl
  | _ => rfl

@[simp] theorem isNamed_type (role : Role) (space : String) (expr : TypeExpr) :
    (type role space expr).isNamed = true := by
  cases expr with
  | array length element => cases length <;> rfl
  | _ => rfl

@[simp] theorem lead_type (role : Role) (space : String) (expr : TypeExpr) :
    (type role space expr).lead = gap space := by
  cases expr with
  | named text => simp [type]
  | qualified package text => simp [type, lead_node]
  | pointer inner => simp [type, lead_node]
  | array length element => cases length <;> simp [type, lead_node]
  | unrecognised => simp [type]

theorem layout_type (indent : Nat) (role : Role) (space : String) (expr : TypeExpr) :
    Layout.type indent (type role space expr) = expr.render := by
  induction expr generalizing role space with
  | named text => simp [type, name, Layout.type, TypeExpr.render]
  | qualified package text => simp [type, Layout.type, Tree.textAt, TypeExpr.render]
  | pointer inner ih =>
      have star : commentTexts false (mark space "*") = [] := rfl
      have none : commentTexts true (type .plain "" inner) = [] :=
        commentTexts_of_lead (lead_type ..) true
      simp [type, Layout.type, firstType, star, none, ih, TypeExpr.render]
  | array length element ih =>
      cases length with
      | none => simp [type, Layout.type, typeAt, ih, TypeExpr.render]
      | some text =>
          simp [type, Layout.type, typeAt, expressionAt, expression, Written.length, ih,
            TypeExpr.render]
  | unrecognised => simp [type, name, Layout.type, TypeExpr.render]

theorem slot_names_texts (slot : Slot) :
    (slot.trees.filter fun tree => tree.role = .name).map Tree.text = slot.names := by
  have later (names : List String) :
      ((names.flatMap fun text => [mark "" ",", name .identifier .name " " text]).filter
        fun tree => tree.role = .name).map Tree.text = names := by
    induction names with
    | nil => rfl
    | cons text names ih => simp [ih]
  obtain ⟨space, names, expr⟩ := slot
  cases names with
  | nil => simp [Slot.trees]
  | cons first names => simp [Slot.trees, later]

theorem nameList_slot (slot : Slot) : nameList slot.trees = ", ".intercalate slot.names := by
  rw [nameList, slot_names_texts]

theorem parameterText_slot (indent : Nat) (slot : Slot) :
    parameterText .parameterDeclaration slot.trees
      ((typeAt indent .type slot.trees).getD "") = slot.text := by
  have skip (names : List String) (rest : List Tree) :
      typeAt indent .type
          ((names.flatMap fun text => [mark "" ",", name .identifier .name " " text]) ++ rest) =
        typeAt indent .type rest := by
    induction names with
    | nil => rfl
    | cons text names ih => simpa [typeAt] using ih
  obtain ⟨space, names, expr⟩ := slot
  cases names with
  | nil => simp [parameterText, Slot.trees, Slot.text, typeAt, layout_type]
  | cons first names =>
      have listed := nameList_slot ⟨space, first :: names, expr⟩
      simp only [parameterText, listed]
      simp [Slot.trees, Slot.text, typeAt, skip, layout_type]

theorem parameterTexts_written (indent : Nat) (role : Role) (space : String) (slots : List Slot) :
    parameterTexts indent (parameters role space slots).children = slots.map Slot.text := by
  have each (slot : Slot) (rest : List Tree) :
      parameterTexts indent (slot.tree :: rest) = slot.text :: parameterTexts indent rest := by
    simp [Slot.tree, parameterTexts, isParameter, parameterText_slot]
  have punctuation (space text : String) (rest : List Tree) :
      parameterTexts indent (mark space text :: rest) = parameterTexts indent rest := by
    simp [mark, parameterTexts]
  have later (slots : List Slot) :
      parameterTexts indent
          ((slots.map Slot.tree).flatMap (fun tree => [mark "" ",", tree]) ++ [mark "" ")"]) =
        slots.map Slot.text := by
    induction slots with
    | nil => simp [punctuation, parameterTexts]
    | cons slot slots ih => simp [punctuation, each, ih]
  cases slots with
  | nil => simp [parameters, commas, punctuation, parameterTexts]
  | cons slot slots =>
      have rest := later slots
      simp only [parameters, children_node, commas, List.map_cons, List.cons_append, punctuation,
        each, rest]

theorem parameterTrees_written (role : Role) (space : String) (slots : List Slot) :
    parameterTrees (parameters role space slots).children = slots.map Slot.tree := by
  have each (slot : Slot) : isParameter slot.tree = true := by simp [Slot.tree, isParameter]
  have punctuation (space text : String) : isParameter (mark space text) = false := rfl
  have later (slots : List Slot) :
      ((slots.map Slot.tree).flatMap (fun tree => [mark "" ",", tree])).filter isParameter =
        slots.map Slot.tree := by
    induction slots with
    | nil => rfl
    | cons slot slots ih => simpa [punctuation, each] using ih
  cases slots with
  | nil => simp [parameters, parameterTrees, commas, punctuation]
  | cons slot slots =>
      have rest := later slots
      simp only [parameters, children_node, parameterTrees, commas, List.map_cons,
        List.cons_append, List.filter_cons, List.filter_append, punctuation, each, rest]
      simp

def isLone : List Slot → Bool
  | [slot] => slot.names.isEmpty
  | _ => false

theorem isLoneType_written (role : Role) (space : String) (slots : List Slot) :
    isLoneType (parameters role space slots).children = isLone slots := by
  rw [isLoneType, parameterTrees_written]
  match slots with
  | [] => rfl
  | [⟨space, names, expr⟩] =>
      cases names <;> simp [isLone, Slot.tree, Slot.trees, Tree.child?]
  | _ :: _ :: _ => rfl

def Result.laid : Result → String
  | none => ""
  | lone _ type => " " ++ type.render
  | list _ slots =>
      if slots.isEmpty then ""
      else if isLone slots then " " ++ ", ".intercalate (slots.map Slot.text)
      else " (" ++ ", ".intercalate (slots.map Slot.text) ++ ")"

def Signature.laid (signature : Signature) : String :=
  "(" ++ ", ".intercalate (signature.args.map Slot.text) ++ ")" ++ signature.result.laid

theorem resultAt_written (indent : Nat) (result : Result) (rest : List Tree)
    (later : resultAt indent rest = "") :
    resultAt indent (result.trees ++ rest) = result.laid := by
  cases result with
  | none => simpa [Result.trees, Result.laid] using later
  | lone space expr =>
      have text := layout_type indent .result space expr
      have role := role_type .result space expr
      have other : (type .result space expr).kind ≠ .parameterList := by
        cases expr with
        | array length element => cases length <;> simp [type]
        | _ => simp [type, name, Tree.kind]
      cases tree : type .result space expr with
      | leaf kind own token =>
          rw [tree] at text role
          simp_all [Result.trees, Result.laid, resultAt]
      | node kind own children =>
          rw [tree] at text role other
          simp_all [Result.trees, Result.laid, resultAt]
  | list space slots =>
      have texts := parameterTexts_written indent .result space slots
      have lone := isLoneType_written .result space slots
      simp only [parameters, children_node, List.cons_append] at texts lone
      simp [Result.trees, Result.laid, resultAt, parameters, texts, lone]

theorem signature_written (indent : Nat) (signature : Signature) (rest : List Tree)
    (later : resultAt indent rest = "") :
    Layout.signature indent (signature.trees ++ rest) = signature.laid := by
  have texts := parameterTexts_written indent .parameters "" signature.args
  have result := resultAt_written indent signature.result rest later
  simp only [parameters, children_node, List.cons_append] at texts
  simp [Layout.signature, signatureText, Signature.trees, Signature.laid, parameters, parametersAt,
    resultAt, texts, result]

theorem layout_functionType (indent : Nat) (role : Role) (space : String) (signature : Signature) :
    Layout.type indent (functionType role space signature) = "func" ++ signature.laid := by
  have inner := signature_written indent signature [] rfl
  simp only [List.append_nil, Layout.signature] at inner
  simpa [functionType, keyword, Layout.type, parametersAt, resultAt] using inner

theorem fieldRows_written (indent : Nat) (fields : List Field) (rest : List Tree)
    (later : fieldRows indent rest = []) :
    fieldRows indent (fields.map Field.tree ++ rest) =
      fields.map fun field => ⟨field.name, "func" ++ field.signature.laid⟩ := by
  induction fields with
  | nil => simpa using later
  | cons field fields ih =>
      have text := layout_functionType (indent + 1) .type field.typeSpace field.signature
      have role : (functionType .type field.typeSpace field.signature).role = .type := rfl
      simp [Field.tree, fieldRows, typeAt, role, text, nameList, Tree.textAt, ih]

theorem layout_structType (indent : Nat) (before after : String) (fields : List Field) :
    Layout.type indent (structType before fields after) =
      structText indent (fields.map fun field => ⟨field.name, "func" ++ field.signature.laid⟩) := by
  have rows := fieldRows_written indent fields [mark after "\x7d"] rfl
  simpa [structType, Layout.type, fieldsAt, keyword, mark, fieldRows] using congrArg _ rows

theorem declaration_type (space text : String) {target : Tree} (role : target.role = .type) :
    declaration (typeDeclaration space text target) =
      "type " ++ (text ++ " " ++ Layout.type 0 target) := by
  have lead : (Syntax.Tree.node .typeSpec .plain
      [name .typeIdentifier .name " " text, target]).lead = gap " " := by
    rw [lead_node (by simp), lead_name]
  have spec : typeSpec 0 (.node .typeSpec .plain [name .typeIdentifier .name " " text, target]) =
      text ++ " " ++ Layout.type 0 target := by
    simp [typeSpec, Tree.child?, role]
  have items : (typeDeclaration space text target).items =
      [.branch (.node .typeSpec .plain [name .typeIdentifier .name " " text, target])] := by
    simp [typeDeclaration, Tree.items, Tree.itemsOf, Tree.withComments,
      Tree.commentsBefore, lead, Tree.isNamed]
  have grouped : isGrouped (typeDeclaration space text target) = false := by
    simp [isGrouped, typeDeclaration, Tree.text, Token.textOf]
  have kind : (typeDeclaration space text target).kind = .typeDeclaration := rfl
  simp [declaration, kind, Layout.typeDeclaration, items, grouped, isTypeSpec, Item.tree?, spec]

theorem isNamed_operand (role : Role) (space text : String) :
    (name (operandKind text) role space text).isNamed = true := by
  simp only [operandKind, name, Tree.isNamed, Tree.kind]
  split <;> (try split) <;> (try split) <;> (try split) <;> rfl

theorem expressionItems_arguments (args : List String) :
    expressionItems false (mark "" "(" :: arguments args ++ [mark "" ")"]) = args := by
  have none (space text : String) : commentTexts true (mark space text) = [] :=
    commentTexts_of_lead (lead_mark ..) true
  have absent (space text : String) :
      commentTexts true (name (operandKind text) .plain space text) = [] :=
    commentTexts_of_lead (lead_name ..) true
  have leaf (space text : String) :
      expression (name (operandKind text) .plain space text) = text := by
    simp [name, expression]
  have later (args : List String) :
      expressionItems true
          (args.flatMap (fun text => [mark "" ",", name (operandKind text) .plain " " text])
            ++ [mark "" ")"]) = args := by
    induction args with
    | nil => simp [expressionItems, none]
    | cons text args ih => simp [expressionItems, none, absent, leaf, isNamed_operand, ih]
  have start : commentTexts false (mark "" "(") = [] := rfl
  cases args with
  | nil => simp [arguments, expressionItems, none, start]
  | cons text args =>
      simp [arguments, expressionItems, start, absent, leaf, isNamed_operand, later]

theorem expression_call (space receiver field : String) (args : List String) :
    expression (call space receiver field args) =
      receiver ++ "." ++ field ++ "(" ++ ", ".intercalate args ++ ")" := by
  have items := expressionItems_arguments args
  rw [List.cons_append] at items
  have operand : expression (name .identifier .operand space receiver) = receiver := by
    simp [name, expression]
  simp [call, expression, expressionAt, Tree.textAt, argumentsAt, items, operand]

theorem statementTree_written (returns : Bool) (space receiver field : String)
    (args : List String) :
    statementTree (statement returns space receiver field args) =
      (if returns then "return " else "") ++ receiver ++ "." ++ field ++ "("
        ++ ", ".intercalate args ++ ")" := by
  have start (space : String) : commentTexts false (call space receiver field args) = [] := rfl
  have named (space : String) : (call space receiver field args).isNamed = true := rfl
  cases returns with
  | false =>
      simp [statement, statementTree, expressionItems, expression_call, start, named]
  | true =>
      simp [statement, statementTree, Tree.childrenOf, expressionList,
        expressionItems, expression_call, start, named, String.append_assoc]

theorem block_written (role : Role) (space : String) (returns : Bool) (receiver field : String)
    (args : List String) :
    Layout.block (block role space returns receiver field args) =
      "\x7b\n\t" ++ ((if returns then "return " else "") ++ receiver ++ "." ++ field ++ "("
        ++ ", ".intercalate args ++ ")") ++ "\n\x7d" := by
  have lead : (statement returns space receiver field args).lead = gap space := by
    cases returns <;> simp [statement, call, lead_node]
  have named : (statement returns space receiver field args).isNamed = true := by
    cases returns <;> rfl
  have items : (block role space returns receiver field args).items =
      [.branch (statement returns space receiver field args)] := by
    simp [block, Tree.items, Tree.itemsOf, Tree.withComments, Tree.commentsBefore,
      lead, named]
  have text := statementTree_written returns space receiver field args
  apply String.toList_injective
  simp [Layout.block, items, Layout.statement, text]

theorem declaration_mockMethod (method : MockMethod) :
    declaration method.tree =
      "func (" ++ method.receiver ++ " " ++ method.owner ++ ") " ++ method.name
        ++ method.signature.laid ++ " \x7b\n\t"
        ++ ((if method.returns then "return " else "") ++ method.receiver ++ "." ++ method.field
          ++ "(" ++ ", ".intercalate method.args ++ ")") ++ "\n\x7d" := by
  have texts := parameterTexts_written 0 .receiver " "
    [⟨"", [method.receiver], .named method.owner⟩]
  have body := block_written .body method.bodySpace method.returns method.receiver method.field
    method.args
  have inner := signature_written 0 method.signature
    [block .body method.bodySpace method.returns method.receiver method.field method.args]
    (by simp [block, resultAt])
  have kind : method.tree.kind = .methodDeclaration := rfl
  have named : method.tree.child? .name =
      some (name .fieldIdentifier .name " " method.name) := by
    simp [MockMethod.tree, Tree.child?, parameters]
  have generic : method.tree.child? .typeParameters = none := by
    cases result : method.signature.result <;>
      simp [MockMethod.tree, Tree.child?, parameters, Signature.trees, Result.trees, block, result]
  have statement : method.tree.child? .body =
      some (block .body method.bodySpace method.returns method.receiver method.field
        method.args) := by
    cases result : method.signature.result <;>
      simp [MockMethod.tree, Tree.child?, parameters, Signature.trees, Result.trees, block, result]
  have receiver : parametersAt 0 .receiver method.tree.children =
      some (method.receiver ++ " " ++ method.owner) := by
    have found : parametersAt 0 .receiver method.tree.children =
        some (", ".intercalate (parameterTexts 0 (parameters .receiver " "
          [⟨"", [method.receiver], .named method.owner⟩]).children)) := by
      simp [MockMethod.tree, keyword, parametersAt, parameters]
    rw [found, texts]
    simp [Slot.text, TypeExpr.render]
  have signature : Layout.signature 0 method.tree.children = method.signature.laid := by
    rw [← inner]
    simp [MockMethod.tree, Layout.signature, keyword, parameters, name, parametersAt, resultAt]
  simp only [declaration, kind, functionDeclaration, named, generic, statement, receiver, signature,
    Option.map_some, Option.getD_some, body, text_name]
  apply String.toList_injective
  simp

theorem declaration_package (text : String) :
    declaration (package text) = "package " ++ text := by
  simp [package, declaration, Tree.childrenOf]

def ImportLine.laid (line : ImportLine) : String :=
  if line.label = "" then quoted line.path else line.label ++ " " ++ quoted line.path

theorem importSpec_written (line : ImportLine) : importSpec line.tree = line.laid := by
  simp only [ImportLine.tree, ImportLine.trees, ImportLine.path?, ImportLine.laid]
  split
  · simp [importSpec, Tree.child?, Tree.text, Token.textOf]
  · split
    · simp_all [importSpec, Tree.child?, Tree.text, Token.textOf]
    · split <;> simp_all [importSpec, Tree.child?, Tree.text, Token.textOf]

theorem importSpecs_written (lines : List ImportLine) (after : String) :
    Tree.childrenOf .importSpec (.node .importSpecList .plain
      (mark " " "(" :: lines.map ImportLine.tree ++ [mark after ")"])) =
        lines.map ImportLine.tree := by
  simp [Tree.childrenOf, List.filter_map, ImportLine.tree, Function.comp_def]

theorem declaration_imports (space : String) (lines : List ImportLine) (after : String) :
    declaration (imports space lines after) = importBlock (lines.map ImportLine.laid) := by
  have texts : (lines.map ImportLine.tree).map importSpec = lines.map ImportLine.laid := by
    simp [Function.comp_def, importSpec_written]
  rw [← texts, ← importSpecs_written lines after]
  simp [imports, declaration, importDeclaration, Tree.childrenOf]

end InterfaceMocks.Written
