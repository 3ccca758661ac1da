import InterfaceMocks.Proofs.Preservation.ExpressionLayouts

/-!
What a construct says is in its tree, white space apart: constructs of which the trees are the same
but for white space are the same.
-/

namespace InterfaceMocks.Preservation

open InterfaceMocks.Syntax InterfaceMocks.Written
open InterfaceMocks.Layout (unspaced unspacedAll_eq unspacedToken)

section Marks

variable {kind : Kind} {role : Role} {space text : String}

@[simp] theorem unspaced_token (space : String) (lexeme : Lexeme) (text : String) :
    unspacedToken (token space lexeme text) = token "" lexeme text := rfl

@[simp] theorem token_inj {lexeme lexeme' : Lexeme} {text' : String} :
    token space lexeme text = token space lexeme' text' ↔ lexeme = lexeme' ∧ text = text' := by
  simp [token]

@[simp] theorem unspaced_leaf (token : Token) :
    unspaced (.leaf kind role token) = .leaf kind role (unspacedToken token) := rfl

@[simp] theorem unspaced_node (children : List Tree) :
    unspaced (.node kind role children) = .node kind role (children.map unspaced) := by
  rw [unspaced, unspacedAll_eq]

@[simp] theorem unspaced_mark : unspaced (mark space text) = mark "" text := rfl

@[simp] theorem unspaced_keyword : unspaced (keyword space text) = keyword "" text := rfl

@[simp] theorem unspaced_name :
    unspaced (Written.name kind role space text) = Written.name kind role "" text := rfl

theorem name_inj {kind' : Kind} {role' : Role} {text' : String} :
    Written.name kind role space text = Written.name kind' role' space text' ↔
      kind = kind' ∧ role = role' ∧ text = text' := by
  simp [Written.name]

end Marks

/-! Types. -/

section Types

variable {kind : Kind} {role role' : Role} {indent indent' : Nat} {space space' : String}
  {first first' : String} {more more' : List String} {tree tree' : Tree} {rest rest' : List Tree}

/-- Names end where no comma comes next. -/
theorem names_distinct (other : tree ≠ mark "" ",") (other' : tree' ≠ mark "" ",")
    (same : (nameTrees kind space first more).map unspaced ++ tree :: rest =
      (nameTrees kind space' first' more').map unspaced ++ tree' :: rest') :
    first = first' ∧ more = more' ∧ tree = tree' ∧ rest = rest' := by
  induction more generalizing first first' more' space space' with
  | nil =>
      cases more' with
      | nil => simpa [nameTrees, name_inj] using same
      | cons => simp [nameTrees, other] at same
  | cons second more ih =>
      cases more' with
      | nil => simp [nameTrees, other'.symm] at same
      | cons second' more' =>
          rw [nameTrees_cons, nameTrees_cons] at same
          simp only [List.map_cons, List.cons_append, unspaced_name, unspaced_mark, List.cons.injEq,
            name_inj, true_and] at same
          obtain ⟨rfl, later⟩ := same
          obtain ⟨rfl, rfl, rfl, rfl⟩ := ih later
          exact ⟨rfl, rfl, rfl, rfl⟩

/-- Types of which the trees are the same but for white space, wherever they stand. -/
def Ty.Same (type type' : Ty) : Prop :=
  ∃ role role' space space' indent indent',
    unspaced (type.tree role space indent) = unspaced (type'.tree role' space' indent')

theorem Ty.Same.of {type type' : Ty}
    (same : unspaced (type.tree role space indent) = unspaced (type'.tree role' space' indent')) :
    type.Same type' := ⟨_, _, _, _, _, _, same⟩

@[simp] theorem unspaced_role (tree : Tree) : (unspaced tree).role = tree.role := by
  cases tree <;> simp [Tree.role]

@[simp] theorem unspaced_kind (tree : Tree) : (unspaced tree).kind = tree.kind := by
  cases tree <;> simp [Tree.kind]

theorem typed_ne_mark (type : Ty) (text : String) : unspaced (typed type indent space) ≠ mark "" text := by
  intro same
  simpa using congrArg Tree.role same

theorem label_distinct {label label' : Label} {type type' : Ty}
    (same : unspaced (label.tree space (typed type indent)) =
      unspaced (label'.tree space' (typed type' indent'))) : label = label' ∧ type.Same type' := by
  obtain ⟨variadic, names⟩ := label
  obtain ⟨variadic', names'⟩ := label'
  cases variadic <;> cases variadic' <;> cases names <;> cases names' <;>
    simp only [Label.tree, unspaced_node, List.map_append, List.map_cons, List.map_nil, unspaced_mark,
      Tree.node.injEq, true_and, reduceCtorEq, false_and] at same
  -- without dots, and then with them, both have no names, only one of them, or neither
  · exact ⟨rfl, .of (List.cons.inj same).1⟩
  · simp [nameTrees] at same
  · simp [nameTrees] at same
  · obtain ⟨rfl, rfl, found, -⟩ := names_distinct (typed_ne_mark type ",") (typed_ne_mark type' ",") same
    exact ⟨rfl, .of found⟩
  · exact ⟨rfl, .of (by simpa using same)⟩
  · simp [nameTrees, mark, Written.name] at same
  · simp [nameTrees, mark, Written.name] at same
  · obtain ⟨rfl, rfl, -, found⟩ := names_distinct (by simp [mark]) (by simp [mark]) same
    exact ⟨rfl, .of (List.cons.inj found).1⟩

theorem quote_distinct {quote quote' : Quote}
    (same : unspaced (quote.tree role space) = unspaced (quote'.tree role' space')) :
    quote = quote' := by
  obtain ⟨raw, text⟩ := quote
  obtain ⟨raw', text'⟩ := quote'
  cases raw <;> cases raw' <;> simp [Quote.tree] at same
  · rw [same.2]
  · rw [same.2]

theorem tag_distinct {tag tag' : Option Quote}
    (same : (tagTrees tag).map unspaced = (tagTrees tag').map unspaced) : tag = tag' := by
  cases tag <;> cases tag' <;> simp [tagTrees] at same ⊢
  exact quote_distinct same

theorem field_distinct {names names' : List String} {type type' : Ty} {width width' : Nat}
    {tag tag' : Option Quote}
    (same : unspaced (fieldTree indent width names (typed type indent) tag) =
      unspaced (fieldTree indent' width' names' (typed type' indent') tag')) :
    names = names' ∧ type.Same type' ∧ tag = tag' := by
  cases names <;> cases names' <;>
    simp only [fieldTree, unspaced_node, List.map_append, List.map_cons, Tree.node.injEq, true_and] at same
  · obtain ⟨found, tags⟩ := List.cons.inj same
    exact ⟨rfl, .of found, tag_distinct tags⟩
  · simpa using congrArg Tree.role (List.cons.inj same).1
  · simpa using congrArg Tree.role (List.cons.inj same).1
  · obtain ⟨rfl, rfl, found, tags⟩ :=
      names_distinct (typed_ne_mark type ",") (typed_ne_mark type' ",") same
    exact ⟨rfl, .of found, tag_distinct tags⟩

theorem unspaced_list (parameters : Parameters) :
    unspaced (listTree role space (parameters.trees indent)) =
      .node .parameterList role
        (mark "" "(" :: ((parameters.trees indent).map unspaced ++ [mark "" ")"])) := by
  simp [listTree]

theorem unspaced_struct (fields : List Tree) :
    unspaced (structTree role space indent fields) =
      .node .structType role [keyword "" "struct",
        .node .fieldDeclarationList .plain (mark "" "\x7b" :: (fields.map unspaced ++ [mark "" "\x7d"]))] := by
  cases fields <;> simp [structTree]

mutual

theorem Ty.distinct (type type' : Ty) (same : type.Same type') : type = type' := by
  obtain ⟨role, role', space, space', indent, indent', same⟩ := same
  cases type with
  | name text =>
      cases type' with
      | name =>
          simp only [Ty.tree, unspaced_name, name_inj] at same
          rw [same.2.2]
      | _ => simp [Ty.tree, structTree, Written.name] at same
  | qualified package text =>
      cases type' with
      | qualified =>
          simp only [Ty.tree, unspaced_node, List.map_cons, unspaced_name, unspaced_mark,
            List.map_nil, Tree.node.injEq, List.cons.injEq, name_inj, true_and, and_true] at same
          rw [same.2.1, same.2.2]
      | _ => simp [Ty.tree, structTree, Written.name] at same
  | pointer target =>
      cases type' with
      | pointer target' =>
          simp only [Ty.tree, unspaced_node, List.map_cons, unspaced_mark, List.map_nil,
            Tree.node.injEq, List.cons.injEq, and_true, true_and] at same
          rw [target.distinct target' (.of same.2)]
      | _ => simp [Ty.tree, structTree, Written.name] at same
  | slice element =>
      cases type' with
      | slice element' =>
          simp only [Ty.tree, unspaced_node, List.map_cons, unspaced_mark, List.map_nil,
            Tree.node.injEq, List.cons.injEq, and_true, true_and] at same
          rw [element.distinct element' (.of same.2)]
      | _ => simp [Ty.tree, structTree, Written.name] at same
  | array length element =>
      cases type' with
      | array length' element' =>
          simp only [Ty.tree, unspaced_node, List.map_cons, unspaced_mark, unspaced_leaf,
            unspaced_token, List.map_nil, Tree.node.injEq, List.cons.injEq, Tree.leaf.injEq,
            token_inj, true_and, and_true] at same
          rw [same.2.1, element.distinct element' (.of same.2.2)]
      | _ => simp [Ty.tree, structTree, Written.name] at same
  | function parameters result =>
      cases type' with
      | function parameters' result' =>
          simp only [Ty.tree, unspaced_node, List.map_cons, unspaced_keyword, unspaced_list,
            Tree.node.injEq, List.cons.injEq, List.append_cancel_right_eq, true_and] at same
          rw [parameters.distinct parameters' same.2.1, result.distinct result' same.2.2]
      | _ => simp [Ty.tree, structTree, Written.name] at same
  | struct fields =>
      cases type' with
      | struct fields' =>
          simp only [Ty.tree, unspaced_struct, Tree.node.injEq, List.cons.injEq,
            List.append_cancel_right_eq, true_and, and_true] at same
          rw [fields.distinct fields' same.2]
      | _ => simp [Ty.tree, structTree, Written.name] at same

theorem Parameters.distinct (parameters parameters' : Parameters) {indent indent' : Nat}
    (same : (parameters.trees indent).map unspaced = (parameters'.trees indent').map unspaced) :
    parameters = parameters' := by
  cases parameters with
  | nil =>
      cases parameters' with
      | nil => rfl
      | cons => simp [Parameters.trees] at same
  | cons label type rest =>
      cases parameters' with
      | nil => simp [Parameters.trees] at same
      | cons label' type' rest' =>
          obtain ⟨first, others⟩ := List.cons.inj same
          obtain ⟨rfl, types⟩ := label_distinct first
          rw [type.distinct type' types, rest.distinctMore rest' others]

theorem Parameters.distinctMore (parameters parameters' : Parameters) {indent indent' : Nat}
    (same : (parameters.more indent).map unspaced = (parameters'.more indent').map unspaced) :
    parameters = parameters' := by
  cases parameters with
  | nil =>
      cases parameters' with
      | nil => rfl
      | cons => simp [Parameters.more] at same
  | cons label type rest =>
      cases parameters' with
      | nil => simp [Parameters.more] at same
      | cons label' type' rest' =>
          obtain ⟨first, others⟩ := List.cons.inj (List.cons.inj same).2
          obtain ⟨rfl, types⟩ := label_distinct first
          rw [type.distinct type' types, rest.distinctMore rest' others]

theorem Result.distinct (result result' : Result) {indent indent' : Nat}
    (same : (result.trees indent).map unspaced = (result'.trees indent').map unspaced) :
    result = result' := by
  have other (type : Ty) (indent : Nat) (children : List Tree) :
      unspaced (type.tree .result " " indent) ≠ .node .parameterList .result children := by
    intro list
    have kind : (type.tree .result " " indent).kind ∈ typeKinds := type.tree_kind " "
    rw [← unspaced_kind, list] at kind
    simp [typeKinds] at kind
  cases result with
  | none => cases result' <;> simp [Result.trees] at same ⊢
  | lone type =>
      cases result' with
      | lone type' =>
          simp only [Result.trees, List.map_cons, List.map_nil, List.cons.injEq, and_true] at same
          rw [type.distinct type' (.of same)]
      | _ => simp [Result.trees, unspaced_list, other] at same
  | list parameters =>
      cases result' with
      | list parameters' =>
          simp only [Result.trees, List.map_cons, unspaced_list, List.map_nil, List.cons.injEq,
            Tree.node.injEq, List.append_cancel_right_eq, true_and, and_true] at same
          rw [parameters.distinct parameters' same]
      | lone type => simp [Result.trees, unspaced_list, (other _ _ _).symm] at same
      | none => simp [Result.trees] at same

theorem Fields.distinct (fields fields' : Fields) {indent indent' width width' : Nat}
    (same : (fields.trees indent width).map unspaced = (fields'.trees indent' width').map unspaced) :
    fields = fields' := by
  cases fields with
  | nil =>
      cases fields' with
      | nil => rfl
      | cons => simp [Fields.trees] at same
  | cons names type tag rest =>
      cases fields' with
      | nil => simp [Fields.trees] at same
      | cons names' type' tag' rest' =>
          obtain ⟨first, others⟩ := List.cons.inj same
          obtain ⟨rfl, types, rfl⟩ := field_distinct first
          rw [type.distinct type' types, rest.distinct rest' others]

end

end Types

/-! Expressions and statements. -/

section Expressions

def Expr.Same (expr expr' : Expr) : Prop :=
  ∃ role role' space space', unspaced (expr.tree role space) = unspaced (expr'.tree role' space')

theorem Expr.Same.of {expr expr' : Expr} {role role' : Role} {space space' : String}
    (same : unspaced (expr.tree role space) = unspaced (expr'.tree role' space')) :
    expr.Same expr' := ⟨_, _, _, _, same⟩

/-- Arguments do not start with the name of a type, and so no call is an allocation. -/
theorem allocation_distinct {arguments : Arguments} {space type : String} {more more' : List Tree} :
    (arguments.trees space).map unspaced ++ mark "" ")" :: more ≠
      Written.name .typeIdentifier .plain "" type :: more' := by
  cases arguments with
  | nil => simp [Arguments.trees, mark, Written.name]
  | cons first rest =>
      intro same
      have kind : (first.tree .plain space).kind ∈ expressionKinds := first.tree_kind space
      rw [← unspaced_kind, (List.cons.inj same).1] at kind
      simp [expressionKinds] at kind

mutual

theorem Expr.distinct (expr expr' : Expr) (same : expr.Same expr') : expr = expr' := by
  obtain ⟨role, role', space, space', same⟩ := same
  cases expr with
  | name text =>
      cases expr' with
      | name =>
          simp only [Expr.tree, unspaced_name, name_inj] at same
          rw [same.2.2]
      | _ => simp [Expr.tree, Written.name] at same
  | int text =>
      cases expr' with
      | int =>
          simp only [Expr.tree, unspaced_leaf, unspaced_token, Tree.leaf.injEq, token_inj, true_and]
            at same
          rw [same.2]
      | _ => simp [Expr.tree, Written.name] at same
  | selector operand field =>
      cases expr' with
      | selector operand' field' =>
          simp only [Expr.tree, unspaced_node, List.map_cons, unspaced_mark, unspaced_name,
            List.map_nil, Tree.node.injEq, List.cons.injEq, name_inj, true_and, and_true] at same
          rw [operand.distinct operand' (.of same.2.1), same.2.2]
      | _ => simp [Expr.tree, Written.name] at same
  | paren inner =>
      cases expr' with
      | paren inner' =>
          simp only [Expr.tree, unspaced_node, List.map_cons, unspaced_mark, List.map_nil,
            Tree.node.injEq, List.cons.injEq, and_true, true_and] at same
          rw [inner.distinct inner' (.of same.2)]
      | _ => simp [Expr.tree, Written.name] at same
  | call function arguments =>
      cases expr' with
      | call function' arguments' =>
          simp only [Expr.tree, unspaced_node, List.map_cons, unspaced_mark, List.map_append,
            List.map_nil, Tree.node.injEq, List.cons.injEq, List.append_cancel_right_eq, true_and,
            and_true] at same
          rw [function.distinct function' (.of same.2.1), arguments.distinct arguments' same.2.2]
      | allocation => simp [Expr.tree, allocation_distinct] at same
      | _ => simp [Expr.tree, Written.name] at same
  | allocation word type arguments =>
      cases expr' with
      | call => simp [Expr.tree, allocation_distinct.symm] at same
      | allocation word' type' arguments' =>
          simp only [Expr.tree, unspaced_node, List.map_cons, unspaced_name, unspaced_mark,
            List.map_append, List.map_nil, Tree.node.injEq, List.cons.injEq, name_inj, true_and,
            List.append_cancel_right_eq, and_true] at same
          rw [same.2.1, same.2.2.1, arguments.distinctMore arguments' same.2.2.2]
      | _ => simp [Expr.tree, Written.name] at same

theorem Arguments.distinct (arguments arguments' : Arguments) {space space' : String}
    (same : (arguments.trees space).map unspaced = (arguments'.trees space').map unspaced) :
    arguments = arguments' := by
  cases arguments with
  | nil =>
      cases arguments' with
      | nil => rfl
      | cons => simp [Arguments.trees] at same
  | cons first rest =>
      cases arguments' with
      | nil => simp [Arguments.trees] at same
      | cons first' rest' =>
          obtain ⟨here, others⟩ := List.cons.inj same
          rw [first.distinct first' (.of here), rest.distinctMore rest' others]

theorem Arguments.distinctMore (arguments arguments' : Arguments)
    (same : arguments.more.map unspaced = arguments'.more.map unspaced) : arguments = arguments' := by
  cases arguments with
  | nil =>
      cases arguments' with
      | nil => rfl
      | cons => simp [Arguments.more] at same
  | cons first rest =>
      cases arguments' with
      | nil => simp [Arguments.more] at same
      | cons first' rest' =>
          obtain ⟨here, others⟩ := List.cons.inj (List.cons.inj same).2
          rw [first.distinct first' (.of here), rest.distinctMore rest' others]

end

theorem statement_distinct {statement statement' : Statement} {space space' : String}
    (same : unspaced (statement.tree space) = unspaced (statement'.tree space')) :
    statement = statement' := by
  cases statement with
  | «return» values =>
      cases statement' with
      | «return» values' =>
          cases values <;> cases values' <;> simp [Statement.tree] at same ⊢
          simpa using Arguments.distinct (.cons _ _) (.cons _ _) same
      | expression => cases values <;> simp [Statement.tree] at same
  | expression value =>
      cases statement' with
      | «return» values => cases values <;> simp [Statement.tree] at same
      | expression value' =>
          simp only [Statement.tree, unspaced_node, List.map_cons, List.map_nil, Tree.node.injEq,
            List.cons.injEq, and_true, true_and] at same
          rw [value.distinct value' (.of same)]

/-- Constructs of one sort are as distinct as each of them. -/
theorem map_distinct {α : Type} {phrase phrase' : α → Tree} {items items' : List α}
    (each : ∀ item item', unspaced (phrase item) = unspaced (phrase' item') → item = item')
    (same : (items.map phrase).map unspaced = (items'.map phrase').map unspaced) : items = items' := by
  induction items generalizing items' with
  | nil => simpa using same.symm
  | cons item items ih =>
      cases items' with
      | nil => simp at same
      | cons item' items' =>
          obtain ⟨here, others⟩ := List.cons.inj same
          rw [each _ _ here, ih others]

theorem body_distinct {statements statements' : List Statement}
    (same : unspaced (bodyTree statements) = unspaced (bodyTree statements')) :
    statements = statements' := by
  simp only [bodyTree, unspaced_node, List.map_cons, unspaced_mark, List.map_append, List.map_nil,
    Tree.node.injEq, List.cons.injEq, List.append_cancel_right_eq, true_and] at same
  exact map_distinct (fun _ _ => statement_distinct) same

end Expressions

/-! Declarations. -/

section Declarations

variable {space space' : String}

theorem import_distinct {spec spec' : Import}
    (same : unspaced (spec.tree space) = unspaced (spec'.tree space')) : spec = spec' := by
  obtain ⟨name, path⟩ := spec
  obtain ⟨name', path'⟩ := spec'
  cases name with
  | none =>
      cases name' with
      | none =>
          simp only [Import.tree, unspaced_node, List.map_cons, List.map_nil, Tree.node.injEq,
            List.cons.injEq, and_true, true_and] at same
          rw [quote_distinct same]
      | some => simp [Import.tree] at same
  | some label =>
      cases name' with
      | none => simp [Import.tree] at same
      | some label' =>
          simp only [Import.tree, unspaced_node, List.map_cons, List.map_nil, Tree.node.injEq,
            List.cons.injEq, and_true, true_and] at same
          have labels : label = label' := by
            cases label <;> cases label' <;> simp_all [ImportName.tree, Written.name]
          rw [labels, quote_distinct same.2]

theorem typeSpec_distinct {spec spec' : TypeSpec} {indent indent' : Nat}
    (same : unspaced (spec.tree space indent) = unspaced (spec'.tree space' indent')) :
    spec = spec' := by
  obtain ⟨isAlias, name, target⟩ := spec
  obtain ⟨isAlias', name', target'⟩ := spec'
  cases isAlias <;> cases isAlias' <;> simp [TypeSpec.tree, name_inj] at same ⊢
  · exact ⟨same.1, target.distinct target' (.of same.2)⟩
  · exact ⟨same.1, target.distinct target' (.of same.2)⟩

theorem body_notin_result (result : Result) (indent : Nat) (statements : List Statement) :
    unspaced (bodyTree statements) ∉ (result.trees indent).map unspaced := by
  intro member
  obtain ⟨tree, among, same⟩ := List.mem_map.1 member
  have block : tree.kind = .block := by simpa [bodyTree] using congrArg Tree.kind same
  cases result with
  | none => simp [Result.trees] at among
  | lone type =>
      obtain rfl := List.mem_singleton.1 among
      have kind : (type.tree .result " " indent).kind ∈ typeKinds := type.tree_kind " "
      simp [block, typeKinds] at kind
  | list parameters =>
      obtain rfl := List.mem_singleton.1 among
      simp [listTree] at block

theorem result_body_distinct {result result' : Result} {body body' : Option (List Statement)}
    (same : (result.trees 0 ++ body.toList.map bodyTree).map unspaced =
      (result'.trees 0 ++ body'.toList.map bodyTree).map unspaced) :
    result = result' ∧ body = body' := by
  cases body with
  | none =>
      cases body' with
      | none => exact ⟨result.distinct result' (by simpa using same), rfl⟩
      | some statements =>
          refine absurd ?_ (body_notin_result result 0 statements)
          rw [Option.toList_none, List.map_nil, List.append_nil] at same
          simp [same]
  | some statements =>
      cases body' with
      | none =>
          refine absurd ?_ (body_notin_result result' 0 statements)
          rw [Option.toList_none, List.map_nil, List.append_nil] at same
          simp [← same]
      | some statements' =>
          simp only [Option.toList_some, List.map_append, List.map_cons, List.map_nil] at same
          obtain ⟨results, bodies⟩ := List.append_inj' same rfl
          rw [result.distinct result' results, body_distinct (List.cons.inj bodies).1]
          exact ⟨rfl, rfl⟩

/-- What a declaration says is in its tree, white space apart. -/
theorem declaration_distinct {declaration declaration' : Declaration}
    (same : unspaced (declaration.tree space) = unspaced (declaration'.tree space')) :
    declaration = declaration' := by
  have kind : (declaration.tree space).kind = (declaration'.tree space').kind := by
    simpa using congrArg Tree.kind same
  cases declaration with
  | package text =>
      cases declaration' with
      | package => simpa [Declaration.tree, name_inj] using same
      | function receiver => cases receiver <;> simp [Declaration.tree] at kind
      | _ => simp [Declaration.tree] at kind
  | «import» spec =>
      cases declaration' with
      | «import» spec' =>
          simp only [Declaration.tree, unspaced_node, List.map_cons, unspaced_keyword, List.map_nil,
            Tree.node.injEq, List.cons.injEq, and_true, true_and] at same
          rw [import_distinct same]
      | imports => simp [Declaration.tree, Import.tree] at same
      | function receiver => cases receiver <;> simp [Declaration.tree] at kind
      | _ => simp [Declaration.tree] at kind
  | imports specs =>
      cases declaration' with
      | «import» spec' => simp [Declaration.tree, Import.tree] at same
      | imports specs' =>
          simp only [Declaration.tree, unspaced_node, List.map_cons, unspaced_keyword, unspaced_mark,
            List.map_append, List.map_nil, Tree.node.injEq, List.cons.injEq,
            List.append_cancel_right_eq, true_and, and_true] at same
          obtain rfl : specs = specs' := map_distinct (fun _ _ => import_distinct) same
          rfl
      | function receiver => cases receiver <;> simp [Declaration.tree] at kind
      | _ => simp [Declaration.tree] at kind
  | type spec =>
      cases declaration' with
      | type spec' =>
          simp only [Declaration.tree, unspaced_node, List.map_cons, unspaced_keyword, List.map_nil,
            Tree.node.injEq, List.cons.injEq, and_true, true_and] at same
          rw [typeSpec_distinct same]
      | types => simp [Declaration.tree] at same
      | function receiver => cases receiver <;> simp [Declaration.tree] at kind
      | _ => simp [Declaration.tree] at kind
  | types specs =>
      cases declaration' with
      | type => simp [Declaration.tree] at same
      | types specs' =>
          simp only [Declaration.tree, unspaced_node, List.map_cons, unspaced_keyword, unspaced_mark,
            List.map_append, List.map_nil, Tree.node.injEq, List.cons.injEq,
            List.append_cancel_right_eq, true_and] at same
          obtain rfl : specs = specs' := map_distinct (fun _ _ => typeSpec_distinct) same
          rfl
      | function receiver => cases receiver <;> simp [Declaration.tree] at kind
      | _ => simp [Declaration.tree] at kind
  | function receiver text parameters result body =>
      cases declaration' with
      | function receiver' text' parameters' result' body' =>
          cases receiver with
          | none =>
              cases receiver' with
              | some => simp [Declaration.tree] at kind
              | none =>
                  simp only [Declaration.tree, unspaced_node, List.map_cons, unspaced_keyword,
                    unspaced_name, unspaced_list, Tree.node.injEq, List.cons.injEq, name_inj, true_and,
                    List.append_cancel_right_eq] at same
                  obtain ⟨rfl, lists, last⟩ := same
                  obtain ⟨rfl, rfl⟩ := result_body_distinct last
                  rw [parameters.distinct parameters' lists]
          | some receiver =>
              cases receiver' with
              | none => simp [Declaration.tree] at kind
              | some receiver' =>
                  simp only [Declaration.tree, unspaced_node, List.map_cons, unspaced_keyword,
                    unspaced_name, unspaced_list, Tree.node.injEq, List.cons.injEq, name_inj, true_and,
                    List.append_cancel_right_eq] at same
                  obtain ⟨receivers, rfl, lists, last⟩ := same
                  obtain ⟨rfl, rfl⟩ := result_body_distinct last
                  rw [receiver.distinct receiver' receivers, parameters.distinct parameters' lists]
      | _ => cases receiver <;> simp [Declaration.tree] at kind

end Declarations

end InterfaceMocks.Preservation
