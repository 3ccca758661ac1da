import InterfaceMocks.Proofs.Layout.Twins

/-!
Expressions are made of the tokens of their trees.
-/

namespace InterfaceMocks.Layout

open InterfaceMocks.Syntax InterfaceMocks.Grammar InterfaceMocks.Text

section Expressions

variable {role : Role} {children children' : List Tree}

theorem find_role {trees : List Tree} (roles : ∀ tree ∈ trees, tree.role = role) (other : Role) :
    trees.find? (fun tree => tree.role = other) = if role = other then trees.head? else none := by
  by_cases same : role = other
  · cases trees with
    | nil => simp
    | cons tree rest => simp [roles tree List.mem_cons_self, same]
  · rw [if_neg same]
    refine List.find?_eq_none.2 fun tree member => ?_
    simp [roles tree member, same]

theorem expression_of_kept {kind : Kind} (other : kind ≠ .selectorExpression ∧ kind ≠ .callExpression
      ∧ kind ≠ .parenthesizedExpression) :
    expression (.node kind role children) = collapsed (.node kind role children) := by
  rw [expression]
  · exact other.1
  · exact other.2.1
  · exact other.2.2

theorem expression_selector {operands : List Tree} {dot field : Tree}
    (operand : ∀ tree ∈ operands, tree.role = .operand) (mark : IsMark "." dot)
    (named : IsLeaf .field field) :
    expression (.node .selectorExpression role (operands ++ [dot, field])) =
      match operands with
      | [] => collapsed (.node .selectorExpression role [dot, field])
      | first :: _ => expression first ++ ("." ++ field.text) := by
  obtain ⟨dot, rfl, -⟩ := mark
  obtain ⟨kind, token, rfl, -⟩ := named
  have found := find_role operand
  cases operands with
  | nil => simp [expression, expressionAt_eq]
  | cons first rest =>
      simp only [expression, expressionAt_eq, Tree.textAt, List.find?_append, found]
      simp [String.append_assoc]

theorem expression_call {functions generic : List Tree} {arguments : Tree}
    (function : ∀ tree ∈ functions, tree.role = .function)
    (typeArguments : ∀ tree ∈ generic, tree.role = .typeArguments)
    (listed : arguments.role = .arguments) :
    expression (.node .callExpression role (functions ++ (generic ++ [arguments]))) =
      match functions with
      | [] => collapsed (.node .callExpression role (generic ++ [arguments]))
      | first :: _ =>
          expression first
            ++ ("(" ++ (", ".intercalate (expressionItems false arguments.children) ++ ")")) := by
  have found := find_role function
  have others := find_role typeArguments
  cases functions with
  | nil => simp [expression, expressionAt_eq, others, listed]
  | cons first rest =>
      simp only [expression, expressionAt_eq, argumentsAt_eq, List.find?_append, found, others]
      simp [listed, String.append_assoc]

theorem solid_mark {text : String} {tree : Tree} (mark : IsMark text tree) :
    tree.isNamed = false := by
  obtain ⟨token, rfl, -⟩ := mark
  rfl

/-- The arguments of a call. -/
theorem relaid_arguments {arguments arguments' : Tree}
    (isList : IsNode .argumentList .arguments arguments) (throughout : Throughout arguments) (twins : Twins arguments arguments') :
    Relaid [arguments] [arguments']
      ("(" ++ (", ".intercalate (expressionItems false arguments.children) ++ ")"))
      ("(" ++ (", ".intercalate (expressionItems false arguments'.children) ++ ")")) := by
  obtain ⟨children, rfl⟩ := isList
  have formed := twins.shape (by decide)
  obtain ⟨children', rfl, each⟩ := twins.node
  obtain ⟨plain, plain'⟩ := twins_plain each
  refine .node ?_
  simp only [Written.children_node, expressionItems_plain plain, expressionItems_plain plain',
    List.append_nil]
  cases formed with
  | argumentList opens items trailing closes =>
      refine relaid_bracketed opens items trailing closes each ?_ fun text tree => solid_mark
      intro tree tree' member solid twins
      have good := (throughout.children tree (by simp [member])).good
      exact ⟨solid.named, twins.isNamed_eq.trans solid.named, solid.tokens, good.expression twins⟩

variable (below : ∀ child ∈ children, Throughout child)

include below

theorem expression_prints {kind : Kind} {tree' : Tree}
    (twins : Twins (.node kind role children) tree') :
    Prints (.node kind role children) tree' (expression (.node kind role children))
      (expression tree') := by
  by_cases laid : kind = .selectorExpression ∨ kind = .callExpression ∨ kind = .parenthesizedExpression
  · have formed := twins.shape (by rcases laid with rfl | rfl | rfl <;> decide)
    have kept := twins.kept
    obtain ⟨children', rfl, each⟩ := twins.node
    obtain ⟨plain, plain'⟩ := twins_plain each
    cases formed with
    | @selectorExpression operands dot field operand mark named =>
        obtain ⟨operands', last', rfl, twinOperands, last⟩ := twins_append each
        obtain _ | ⟨twinDot, _ | ⟨twinField, _ | _⟩⟩ := last
        have operand' := twins_roles twinOperands operand
        rw [expression_selector operand mark named,
          expression_selector operand' (twinDot.isMark mark) (twinField.isLeaf named).1]
        cases twinOperands with
        | nil => exact kept
        -- the first operand is printed, and any other is left out
        | @cons tree tree' _ _ first others =>
            refine .node ?_ (by simp)
            have good := (below tree (by simp)).good
            have rest := Relaid.mark mark twinDot (Relaid.leaf named twinField .nil)
            simpa using (good.expression first).before (Relaid.dropAll others rest)
    | @callExpression functions generic arguments function typeArguments listed =>
        obtain ⟨functions', last', rfl, twinFunctions, last⟩ := twins_append each
        obtain ⟨generic', last', rfl, twinGeneric, last⟩ := twins_append last
        obtain _ | ⟨twinArguments, _ | _⟩ := last
        have role : arguments.role = .arguments := by
          obtain ⟨items, rfl⟩ := listed
          rfl
        rw [expression_call function typeArguments role,
          expression_call (twins_roles twinFunctions function)
            (twins_roles twinGeneric typeArguments) (twinArguments.role_eq.trans role)]
        cases twinFunctions with
        | nil => exact kept
        | @cons tree tree' _ _ first others =>
            refine .node ?_ (by simp)
            have good := (below tree (by simp)).good
            have list := relaid_arguments listed (below arguments (by simp)) twinArguments
            simpa using (good.expression first).before
              (Relaid.dropAll others (Relaid.dropAll twinGeneric list))
    | @parenthesizedExpression left inner right opens solid closes =>
        obtain _ | ⟨twinLeft, _ | ⟨twinInner, _ | ⟨twinRight, _ | _⟩⟩⟩ := each
        rename_i left' inner' right'
        have paren {left inner right : Tree} (opens : IsMark "(" left) (named : inner.isNamed = true)
            (plain : ∀ tree ∈ [left, inner, right], Plain tree) :
            expression (.node .parenthesizedExpression role [left, inner, right]) =
              "(" ++ (expression inner ++ ")") := by
          rw [expression, expressionItems_plain plain]
          simp [solid_mark opens, named, String.append_assoc]
        rw [paren opens solid.named plain,
          paren (twinLeft.isMark opens) (twinInner.isNamed_eq.trans solid.named) plain']
        refine .node ?_ (by simp)
        have good := (below inner (by simp)).good
        have rest := Relaid.mark closes twinRight .nil
        simpa using Relaid.mark opens twinLeft ((good.expression twinInner).before rest)
    | _ => simp at laid
  · have other : kind ≠ .selectorExpression ∧ kind ≠ .callExpression
        ∧ kind ≠ .parenthesizedExpression := by simpa using laid
    have kept := twins.kept
    obtain ⟨children', rfl, -⟩ := twins.node
    rw [expression_of_kept other, expression_of_kept other]
    exact kept

end Expressions

end InterfaceMocks.Layout
