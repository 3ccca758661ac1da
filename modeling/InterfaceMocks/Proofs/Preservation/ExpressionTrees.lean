import InterfaceMocks.Proofs.Preservation.TypeTrees
import InterfaceMocks.Proofs.Preservation.Expressions

/-!
How the expressions of a source are built. An expression that is laid out anew has no operator: it is
an operand with what is applied to it, step by step. `new` and `make` are called as they are read or
not at all, so that no step calls them.
-/

namespace InterfaceMocks.Preservation

open InterfaceMocks.Syntax InterfaceMocks.Grammar
open InterfaceMocks.Written (IsName allocators operandKind)

def isAllocator : Tree → Bool
  | .leaf kind _ token => kind = .identifier && allocators.contains token.text
  | .node _ _ _ => false

/-- The kinds of what may stand next to an expression, marks among them. -/
def expressionContext : List Kind :=
  [.mark, .fieldIdentifier, .argumentList] ++ typeKinds ++ expressionKinds

inductive ExprForm : Tree → Prop where
  | other {tree} (foreign : tree.kind ∉ expressionContext) : ExprForm tree
  | unbuilt {kind role children} (foreign : isBuilt kind children = false) :
      ExprForm (.node kind role children)
  | int {lead text} : ExprForm (.leaf .intLiteral .plain ⟨lead, .int, text⟩)
  | name {kind lead text} (same : kind = operandKind text) (isName : IsName text)
      (free : text ∉ typeWords) : ExprForm (.leaf kind .plain ⟨lead, .word, text⟩)
  | paren {a b inner} (given : Given [] (Expressions.operation .disjunction .plain) [inner]) :
      ExprForm (.node .parenthesizedExpression .plain
        [.leaf .mark .plain ⟨a, .mark, "("⟩, inner, .leaf .mark .plain ⟨b, .mark, ")"⟩])
  | selector {operand a b field} (form : ExprForm operand) (isName : IsName field) :
      ExprForm (.node .selectorExpression .plain
        [operand.withRole .operand, .leaf .mark .plain ⟨a, .mark, "."⟩,
         .leaf .fieldIdentifier .field ⟨b, .word, field⟩])
  | call {function arguments} (form : ExprForm function)
      (listed : Given [] Expressions.arguments [arguments])
      (uncalled : isAllocator function = false) :
      ExprForm (.node .callExpression .plain
        [function.withRole .function, arguments.withRole .arguments])
  | emptyAllocation {lead word a b} (allocates : word ∈ allocators) :
      ExprForm (.node .callExpression .plain
        [.leaf .identifier .function ⟨lead, .word, word⟩,
         .node .argumentList .arguments
          [.leaf .mark .plain ⟨a, .mark, "("⟩, .leaf .mark .plain ⟨b, .mark, ")"⟩]])
  | allocation {lead word a b type items trees trailing} (allocates : word ∈ allocators)
      (typed : Given [] Types.type [type]) (joined : Joined (type :: items) trees)
      (each : ∀ item ∈ items, Given [] (Expressions.operation .disjunction .plain) [item])
      (ending : IsTrailing trailing) :
      ExprForm (.node .callExpression .plain
        [.leaf .identifier .function ⟨lead, .word, word⟩,
         .node .argumentList .arguments
          (.leaf .mark .plain ⟨a, .mark, "("⟩ ::
            (trees ++ (trailing ++ [.leaf .mark .plain ⟨b, .mark, ")"⟩])))])

section Operands

variable {held trees : List Tree}

def IsOperand (trees : List Tree) : Prop :=
  ∃ tree, trees = [tree] ∧ ExprForm tree ∧ isAllocator tree = false

theorem foreign_expression {g : Form} (avoids : g.avoids expressionContext = true)
    (given : Given held g trees) : IsOperand trees := by
  obtain ⟨tree, rfl, foreign⟩ := given_avoids avoids given
  refine ⟨tree, rfl, .other foreign, ?_⟩
  cases tree with
  | node => rfl
  | leaf kind role token =>
      have other : kind ≠ .identifier := fun same =>
        foreign (by simp [same, Tree.kind, expressionContext, expressionKinds])
      simp [isAllocator, other]

/-- The expressions of a source are trees by themselves. -/
theorem given_value (given : Given held (Expressions.expression .plain) trees) :
    ∃ tree, trees = [tree] ∧ Given [] (Expressions.operation .disjunction .plain) [tree] := by
  obtain ⟨tree, rfl⟩ := given_one (by decide) (given_rule given)
  exact ⟨tree, rfl, given_rule given⟩

theorem given_literals (given : Given held Expressions.literal trees) : IsOperand trees := by
  obtain ⟨g, among, this⟩ := given_choice (by simp) given
  simp only [List.mem_cons, List.not_mem_nil, or_false] at among
  rcases among with rfl | rfl | rfl | rfl | rfl | rfl | rfl | rfl | rfl
  · exact foreign_expression (by decide) this
  · obtain ⟨lead, text, rfl⟩ := given_literal this
    exact ⟨_, rfl, .int, rfl⟩
  · exact foreign_expression (by decide) this
  · exact foreign_expression (by decide) this
  · exact foreign_expression (by decide) this
  all_goals
    obtain ⟨lead, rfl⟩ := given_keyword this
    refine ⟨_, rfl, .name ?_ ?_ ?_, rfl⟩ <;> decide

theorem given_allocatorCall (given : Given held allocatorCall trees) : IsOperand trees := by
  obtain ⟨children, inside, rfl⟩ := given_node given
  obtain ⟨functions, quiet, lists, function, joined, list, rfl⟩ := given_three inside
  obtain ⟨inner, word, rfl⟩ := given_as function
  obtain ⟨⟨lead, lexeme, text⟩, ⟨rfl, allocates⟩, -, rfl⟩ := given_leaf word
  obtain rfl := derives_joined.1 joined.derives
  obtain ⟨inner, node, rfl⟩ := given_as list
  obtain ⟨children, within, rfl⟩ := given_node node
  obtain ⟨lefts, middle, rights, left, items, right, rfl⟩ := given_three within
  obtain ⟨a, rfl⟩ := given_punct left
  obtain ⟨b, rfl⟩ := given_punct right
  rcases given_optional items with some | rfl
  · obtain ⟨types, more, trailings, type, many, trailing, rfl⟩ := given_three some
    obtain ⟨first, rfl⟩ := given_one (by decide) (given_rule type)
    obtain ⟨items, joined, each⟩ := joined_of_many first many given_value
    refine ⟨_, rfl, ?_, rfl⟩
    have form := @ExprForm.allocation lead text a b first items _ _ allocates (given_rule type) joined
      each (given_trailing trailing)
    simpa using form
  · exact ⟨_, rfl, .emptyAllocation allocates, rfl⟩

theorem given_parenthesized (given : Given held Expressions.parenthesized trees) :
    IsOperand trees := by
  obtain ⟨children, inside, rfl⟩ := given_node given
  obtain ⟨lefts, inners, rights, left, inner, right, rfl⟩ := given_three inside
  obtain ⟨a, rfl⟩ := given_punct left
  obtain ⟨tree, rfl⟩ := given_one (by decide) (given_rule inner)
  obtain ⟨b, rfl⟩ := given_punct right
  exact ⟨_, rfl, .paren (given_rule inner), rfl⟩

theorem operandKind_other {text : String} (free : text ∉ expressionWords) :
    operandKind text = .identifier := by
  simp [expressionWords] at free
  simp [operandKind, free]

theorem given_freeName (given : Given held (.leaf .identifier (.name expressionWords)) trees) :
    IsOperand trees := by
  obtain ⟨lead, text, rfl, isName, free⟩ := given_name given
  have plain : text ∉ typeWords := fun among => free (List.mem_append_left _ among)
  refine ⟨_, rfl, .name (operandKind_other free).symm isName plain, ?_⟩
  have other : text ∉ allocators := fun among => free (by simp_all [expressionWords, allocators])
  simpa [isAllocator] using other

end Operands

section Steps

variable {trees : List Tree} {cursor rest : Cursor}

def Opens (cursor : Cursor) : Prop :=
  ∃ setting trees rest, reading rules (.punct "(") setting cursor = .done trees rest

/-- What is read as an operand: `new` and `make` only where no parenthesis comes next. -/
def IsSubject (trees : List Tree) (rest : Cursor) : Prop :=
  ∃ tree, trees = [tree] ∧ ExprForm tree ∧ (isAllocator tree = true → ¬ Opens rest)

theorem IsOperand.subject (operand : IsOperand trees) (rest : Cursor) : IsSubject trees rest := by
  obtain ⟨tree, rfl, form, other⟩ := operand
  exact ⟨tree, rfl, form, by simp [other]⟩

def bareAllocator : Form :=
  .sequence [Expressions.allocator, .absent (.seq .joined (.punct "("))]

theorem reading_bareAllocator {follows : Bool} (lexed : ∀ token ∈ cursor.tokens, Lexed token)
    (found : reading rules bareAllocator ⟨follows, follows, []⟩ cursor = .done trees rest) :
    IsSubject trees rest := by
  obtain ⟨words, middle, quiet, word, absent, rfl⟩ := reading_seq_done.1 found
  obtain ⟨none, rfl, rfl⟩ := reading_absent_done.1 absent
  obtain ⟨⟨lead, lexeme, text⟩, tail, rfl, ⟨rfl, allocates⟩, rfl, rfl⟩ := reading_leaf_done rfl word
  have isName : IsName text := lexed _ List.mem_cons_self rfl
  have free : text ∉ typeWords ∧ operandKind text = .identifier := by
    simp only [List.mem_cons, List.not_mem_nil, or_false] at allocates
    rcases allocates with rfl | rfl <;> decide
  refine ⟨_, rfl, .name free.2.symm isName free.1, fun _ => ?_⟩
  -- a parenthesis on the same line would have been seen
  rintro ⟨setting, marks, last, mark⟩
  obtain ⟨token, tail', start, ⟨isMark, isOpen⟩, -, -⟩ := reading_leaf_done rfl mark
  obtain ⟨rfl, unbroken⟩ := Cursor.mk.inj start
  have line : (follows && token.startsLine) = false := by simpa using unbroken
  rw [start] at none
  simp [line, isMark, isOpen] at none

theorem reading_operand {mode : Mode} {setting : Setting}
    (lexed : ∀ token ∈ cursor.tokens, Lexed token)
    (found : reading rules (.rule (.operand mode)) setting cursor = .done trees rest) :
    IsSubject trees rest := by
  rw [reading_rule] at found
  obtain ⟨g, among, this⟩ := reading_choice_done (by simp) found
  have given : Given [] g trees := ⟨_, _, _, rfl, lexed, this⟩
  simp only [List.mem_cons, List.not_mem_nil, or_false] at among
  rcases among with rfl | rfl | rfl | rfl | rfl | rfl | rfl | rfl | rfl
  · exact (given_literals given).subject rest
  · rcases reading_alt_done.1 this with call | ⟨-, bare⟩
    · exact (given_allocatorCall ⟨_, _, _, rfl, lexed, call⟩).subject rest
    · exact reading_bareAllocator lexed bare
  · exact (foreign_expression (by decide) given).subject rest
  · exact (foreign_expression (by decide) given).subject rest
  · exact (foreign_expression (by decide) given).subject rest
  · have avoids (braces : Braces) :
        (Expressions.namedLiteral braces).avoids expressionContext = true := by cases braces <;> rfl
    exact (foreign_expression (avoids mode.braces) given).subject rest
  · exact (foreign_expression (by decide) given).subject rest
  · exact (given_parenthesized given).subject rest
  · exact (given_freeName given).subject rest

/-- A step gives one expression, and none that is `new` or `make`. -/
theorem reading_primaryStep {mode : Mode} {follows ends : Bool} {tree : Tree}
    (form : ExprForm tree) (uncalled : isAllocator tree = true → ¬ Opens cursor)
    (lexed : ∀ token ∈ cursor.tokens, Lexed token)
    (found : reading rules (primaryStep mode) ⟨follows, ends, [tree]⟩ cursor = .done trees rest) :
    IsOperand trees := by
  obtain ⟨g, among, this⟩ := reading_choice_done (by simp) found
  have given : Given [tree] g trees := ⟨_, _, _, rfl, lexed, this⟩
  simp only [List.mem_cons, List.not_mem_nil, or_false] at among
  rcases among with rfl | rfl | rfl | rfl | rfl | rfl
  · obtain ⟨children, inside, rfl⟩ := given_node given
    obtain ⟨operands, dots, fields, operand, dot, field, rfl⟩ := given_three inside
    obtain ⟨inner, held, rfl⟩ := given_as operand
    obtain rfl := given_held held
    obtain ⟨a, rfl⟩ := given_punct dot
    obtain ⟨inner, word, rfl⟩ := given_as field
    obtain ⟨b, text, rfl, isName, -⟩ := given_name word
    exact ⟨_, rfl, .selector form isName, rfl⟩
  · exact foreign_expression rfl given
  · obtain ⟨children, inside, rfl⟩ := reading_node_done.1 this
    obtain ⟨functions, middle, lists, function, list, rfl⟩ := reading_seq_done.1 inside
    obtain ⟨inner, held, rfl⟩ := reading_as_done.1 function
    rw [reading_held] at held
    obtain ⟨rfl, rfl⟩ := Reply.done.inj held
    obtain ⟨arguments, rfl, listed⟩ := given_filled (by decide) ⟨_, _, _, rfl, lexed, list⟩
    refine ⟨_, rfl, .call form listed ?_, rfl⟩
    -- the list of arguments starts with a parenthesis
    by_contra allocates
    obtain ⟨inner, arguments, -⟩ := reading_as_done.1 list
    rw [reading_rule] at arguments
    obtain ⟨children, inside, -⟩ := reading_node_done.1 arguments
    obtain ⟨lefts, middle, others, left, -⟩ := reading_seq_done.1 inside
    exact uncalled (by simpa using allocates) ⟨_, _, _, left⟩
  · obtain ⟨children, inside, rfl⟩ := given_node given
    obtain ⟨functions, generics, lists, -, generic, -, rfl⟩ := given_three inside
    obtain ⟨types, rfl, listed⟩ := given_filled (by decide) generic
    obtain ⟨inner, -, same⟩ := given_node listed
    obtain rfl := List.singleton_inj.1 same
    exact ⟨_, rfl, .unbuilt (by simp [isBuilt, Tree.isNamed, Tree.kind, constituents, expressionKinds]),
      rfl⟩
  · exact foreign_expression (by decide) given
  · exact foreign_expression (by decide) given

theorem given_primary {mode : Mode} {held : List Tree}
    (given : Given held (Expressions.primary mode) trees) : ∃ tree, trees = [tree] ∧ ExprForm tree := by
  obtain ⟨setting, cursor, rest, rfl, lexed, found⟩ := given
  have form : Expressions.primary mode = .hold (.rule (.operand mode)) (.grow (primaryStep mode)) := rfl
  rw [form, reading_hold, Reply.andThen_eq_done] at found
  obtain ⟨subject, middle, operand, grown⟩ := found
  have start := reading_operand lexed operand
  have later := (reading_derived operand lexed).2
  have grows : Grows (primaryStep mode) _ _ subject middle trees rest := reading_grow_grows grown
  clear grown operand form
  -- what is held is an expression after every step
  induction grows with
  | stop =>
      obtain ⟨tree, rfl, form, -⟩ := start
      exact ⟨tree, rfl, form⟩
  | more once again ih =>
      obtain ⟨tree, rfl, form, uncalled⟩ := start
      exact ih ((reading_primaryStep form uncalled later once).subject _)
        (reading_derived once later).2

theorem given_unary {mode : Mode} {held : List Tree}
    (given : Given held (Expressions.unary mode) trees) : ∃ tree, trees = [tree] ∧ ExprForm tree := by
  rcases given_alt given with primary | operator
  · exact given_primary (given_rule primary)
  · obtain ⟨tree, rfl, foreign⟩ := @given_avoids _ _ expressionContext _ rfl operator
    exact ⟨tree, rfl, .other foreign⟩

/-- What is held, or an operation on it. -/
theorem given_grown {kind : Kind} {body : Form} {held : List Tree}
    (given : Given held (.grow (.node kind body)) trees) :
    trees = held ∨ ∃ children, trees = [.node kind .plain children] := by
  obtain ⟨setting, cursor, rest, rfl, lexed, found⟩ := given
  have grows := reading_grow_grows found
  clear found lexed
  generalize setting.held = held at grows
  induction grows with
  | stop => exact .inl rfl
  | more once again ih =>
      obtain ⟨children, -, rfl⟩ := reading_node_done.1 once
      exact .inr (ih.elim (fun same => ⟨children, same⟩) id)

theorem given_level {level : Level} {mode : Mode} {held : List Tree}
    (tighter : ∀ {held trees}, Given held (Expressions.tighter mode level) trees →
      ∃ tree, trees = [tree] ∧ ExprForm tree)
    (given : Given held (Expressions.operation level mode) trees) :
    ∃ tree, trees = [tree] ∧ ExprForm tree := by
  obtain ⟨subject, operand, grown⟩ := given_hold given
  rcases given_grown grown with rfl | ⟨children, rfl⟩
  · exact tighter operand
  · exact ⟨_, rfl, .other (by simp [Tree.kind, expressionContext, expressionKinds, typeKinds])⟩

theorem given_operation {level : Level} {mode : Mode} {held : List Tree}
    (given : Given held (Expressions.operation level mode) trees) :
    ∃ tree, trees = [tree] ∧ ExprForm tree := by
  have product {held trees : List Tree}
      (given : Given held (Expressions.operation .product mode) trees) :=
    given_level (fun inner => given_unary (given_rule inner)) given
  have sum {held trees : List Tree} (given : Given held (Expressions.operation .sum mode) trees) :=
    given_level (fun inner => product (given_rule inner)) given
  have comparison {held trees : List Tree}
      (given : Given held (Expressions.operation .comparison mode) trees) :=
    given_level (fun inner => sum (given_rule inner)) given
  have conjunction {held trees : List Tree}
      (given : Given held (Expressions.operation .conjunction mode) trees) :=
    given_level (fun inner => comparison (given_rule inner)) given
  cases level with
  | product => exact product given
  | sum => exact sum given
  | comparison => exact comparison given
  | conjunction => exact conjunction given
  | disjunction => exact given_level (fun inner => conjunction (given_rule inner)) given

theorem given_expression {mode : Mode} {tree : Tree} {held : List Tree}
    (given : Given held (Expressions.operation .disjunction mode) [tree]) : ExprForm tree := by
  obtain ⟨tree', same, form⟩ := given_operation given
  exact List.singleton_inj.1 same ▸ form

theorem given_argument {held : List Tree} (given : Given held Expressions.argument trees) :
    ∃ tree, trees = [tree] ∧ ExprForm tree := by
  obtain ⟨subject, value, rest⟩ := given_hold given
  rcases given_alt rest with variadic | held
  · obtain ⟨tree, rfl, foreign⟩ := @given_avoids _ _ expressionContext _ rfl variadic
    exact ⟨tree, rfl, .other foreign⟩
  · obtain rfl := given_held held
    exact given_operation (given_rule value)

theorem given_arguments {list : Tree} (given : Given [] Expressions.arguments [list]) :
    ∃ a b items trees trailing,
      list = .node .argumentList .plain
          (.leaf .mark .plain ⟨a, .mark, "("⟩ ::
            (trees ++ (trailing ++ [.leaf .mark .plain ⟨b, .mark, ")"⟩])))
        ∧ Joined items trees ∧ IsTrailing trailing ∧ ∀ item ∈ items, ExprForm item := by
  obtain ⟨children, inside, same⟩ := given_node given
  obtain rfl := List.singleton_inj.1 same
  obtain ⟨lefts, middle, rights, left, listed, right, rfl⟩ := given_three inside
  obtain ⟨a, rfl⟩ := given_punct left
  obtain ⟨b, rfl⟩ := given_punct right
  rcases given_optional listed with some | rfl
  · obtain ⟨trees, trailings, separated, trailing, rfl⟩ := given_seq some
    obtain ⟨firsts, more, one, many, rfl⟩ := given_seq separated
    obtain ⟨first, rfl, form⟩ := given_argument one
    obtain ⟨items, joined, forms⟩ := joined_of_many first many given_argument
    exact ⟨a, b, first :: items, first :: more, trailings, by simp, joined,
      given_trailing trailing, List.forall_mem_cons.2 ⟨form, forms⟩⟩
  · exact ⟨a, b, [], [], [], rfl, .nil, .inl rfl, by simp⟩

end Steps

end InterfaceMocks.Preservation
