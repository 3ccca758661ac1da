import InterfaceMocks.Proofs.Grammar.Refusal

/-!
What the shapes of tokens take, and how an expression ends: what is primary is a whole expression
where no operator can follow.
-/

namespace InterfaceMocks.Grammar

open InterfaceMocks.Syntax

attribute [simp] Tree.tokens Tree.tokensOf

@[simp] theorem withRole_leaf (role other : Role) (kind : Kind) (token : Token) :
    (Tree.leaf kind other token).withRole role = .leaf kind role token := rfl

@[simp] theorem withRole_node (role other : Role) (kind : Kind) (children : List Tree) :
    (Syntax.Tree.node kind other children).withRole role = .node kind role children := rfl

attribute [simp] Types.anyName Types.string Types.plainName Types.qualifiedName Types.generic
  Types.namedType Types.pointer Types.slice Types.array Types.mapType Types.channel Types.function
  Types.negated Types.fieldList Types.struct Types.interface Types.parenthesized Types.markedType

theorem tokensOf_append (first second : List Tree) :
    Tree.tokensOf (first ++ second) = Tree.tokensOf first ++ Tree.tokensOf second := by
  induction first with
  | nil => rfl
  | cons tree rest ih => simp [ih]

theorem tokensOf_withRole (role : Role) (trees : List Tree) :
    Tree.tokensOf (trees.map (Tree.withRole role)) = Tree.tokensOf trees := by
  induction trees with
  | nil => rfl
  | cons tree rest ih => cases tree <;> simp [ih]

theorem mem_tokensOf {token : Token} {trees : List Tree} :
    token ∈ Tree.tokensOf trees ↔ ∃ tree ∈ trees, token ∈ tree.tokens := by
  induction trees with
  | nil => simp
  | cons tree rest ih => simp [ih]

/-! What each shape takes from a cursor that no line end stops. -/

section Leaves

variable (kind : Kind) (follows : Bool) (token : Token) (rest : List Token) (text : String)

@[simp] theorem leaf_mark :
    Cursor.leaf kind (.mark text) follows ⟨token :: rest, false⟩ =
      if token.lexeme = .mark ∧ token.text = text
      then .done [.leaf kind .plain token] (Cursor.after rest follows) else .mismatch := by
  by_cases taken : token.lexeme = .mark ∧ token.text = text <;> simp [Cursor.leaf, Shape.take?, taken]

@[simp] theorem leaf_keyword :
    Cursor.leaf kind (.keyword text) follows ⟨token :: rest, false⟩ =
      if token.lexeme = .word ∧ token.text = text
      then .done [.leaf kind .plain token] (Cursor.after rest follows) else .mismatch := by
  by_cases taken : token.lexeme = .word ∧ token.text = text <;> simp [Cursor.leaf, Shape.take?, taken]

@[simp] theorem leaf_oneOf (words : List String) :
    Cursor.leaf kind (.oneOf words) follows ⟨token :: rest, false⟩ =
      if token.lexeme = .word ∧ token.text ∈ words
      then .done [.leaf kind .plain token] (Cursor.after rest follows) else .mismatch := by
  by_cases taken : token.lexeme = .word ∧ token.text ∈ words <;> simp [Cursor.leaf, Shape.take?, taken]

@[simp] theorem leaf_name (reserved : List String) :
    Cursor.leaf kind (.name reserved) follows ⟨token :: rest, false⟩ =
      if token.lexeme = .word ∧ token.text ∉ reserved
      then .done [.leaf kind .plain token] (Cursor.after rest follows) else .mismatch := by
  by_cases taken : token.lexeme = .word ∧ token.text ∉ reserved <;> simp [Cursor.leaf, Shape.take?, taken]

@[simp] theorem leaf_literal (lexeme : Lexeme) :
    Cursor.leaf kind (.literal lexeme) follows ⟨token :: rest, false⟩ =
      if token.lexeme = lexeme
      then .done [.leaf kind .plain token] (Cursor.after rest follows) else .mismatch := by
  by_cases taken : token.lexeme = lexeme <;> simp [Cursor.leaf, Shape.take?, taken]

@[simp] theorem leaf_opening_other (other : token.lexeme ≠ .mark) :
    Cursor.leaf kind (.opening text) follows ⟨token :: rest, false⟩ = .mismatch := by
  simp [Cursor.leaf, Shape.take?, other]

@[simp] theorem leaf_nothing (shape : Shape) (broken : Bool) :
    Cursor.leaf kind shape follows ⟨[], broken⟩ = .mismatch := by
  simp [Cursor.leaf, Shape.take?]

@[simp] theorem atLineStart_nothing (broken : Bool) :
    (⟨[], broken⟩ : Cursor).atLineStart = false := rfl

@[simp] theorem atLineStart_cons (broken : Bool) :
    (⟨token :: rest, broken⟩ : Cursor).atLineStart = token.startsLine := rfl

@[simp] theorem after_nothing : Cursor.after [] follows = ⟨[], false⟩ := by
  simp [Cursor.after]

@[simp] theorem after_flat : Cursor.after rest false = ⟨rest, false⟩ := by
  simp [Cursor.after]

end Leaves

def operationStep (level : Level) (mode : Mode) : Form :=
  .node .binaryExpression <| Gram.sequence
    [.as .left .held, .as .operator (Expressions.operators mode level),
     .as .right (Expressions.tighter mode.inner level)]

def primaryStep (mode : Mode) : Form :=
  Gram.choice
    [Expressions.selector, Expressions.assertion mode, Expressions.call,
     Expressions.instantiatedCall, Expressions.index, Expressions.slice]

theorem operationStep_opens (level : Level) (mode : Mode) :
    (operationStep level mode).opens = true := by
  have checked : (Level.list.all fun level =>
      Mode.list.all fun mode => (operationStep level mode).opens) = true := by decide +kernel
  exact List.all_eq_true.1 (List.all_eq_true.1 checked level (Level.mem_list level)) mode
    (Mode.mem_list mode)

theorem primaryStep_opens (mode : Mode) : (primaryStep mode).opens = true := by
  have checked : (Mode.list.all fun mode => (primaryStep mode).opens) = true := by decide +kernel
  exact List.all_eq_true.1 checked mode (Mode.mem_list mode)

/-- Where nothing more can be taken up, what was read first is all. -/
theorem reading_leftward_closed {setting : Setting} {cursor rest : Cursor} {trees : List Tree}
    {seed step : Form} (opens : step.opens = true) (closed : rest.isClosed)
    (first : reading rules seed setting cursor = .done trees rest) :
    reading rules (Gram.leftward seed step) setting cursor = .done trees rest := by
  have before : (Gram.grow step).terminatorBefore setting.follows = setting.follows := by
    simp [Gram.opens_flat opens]
  rw [Gram.leftward, reading_hold, before, first, Reply.andThen_done, reading_grow,
    reading_closed closed opens, Reply.branch_mismatch]

section Operations

variable {mode : Mode} {follows : Bool} {cursor rest : Cursor} {trees : List Tree}

/-- What is primary and followed by nothing is a whole expression. -/
theorem reading_operation (closed : rest.isClosed)
    (primary : ∀ setting : Setting, setting.follows = follows →
      reading rules (.rule (.primary mode)) setting cursor = .done trees rest)
    (level : Level) (setting : Setting) (same : setting.follows = follows) :
    reading rules (.rule (.operation level mode)) setting cursor = .done trees rest := by
  have unary (setting : Setting) (same : setting.follows = follows) :
      reading rules (.rule (.unary mode)) setting cursor = .done trees rest := by
    rw [reading_rule, rules, Expressions.unary, reading_alt, primary _ (by simpa using same),
      Reply.orElse_done]
  have climb (level : Level)
      (tighter : ∀ setting : Setting, setting.follows = follows →
        reading rules (Expressions.tighter mode level) setting cursor = .done trees rest)
      (setting : Setting) (same : setting.follows = follows) :
      reading rules (.rule (.operation level mode)) setting cursor = .done trees rest := by
    rw [reading_rule]
    exact reading_leftward_closed (operationStep_opens level mode) closed (tighter _ same)
  have product := climb .product unary
  have sum := climb .sum product
  have comparison := climb .comparison sum
  have conjunction := climb .conjunction comparison
  have disjunction := climb .disjunction conjunction
  cases level with
  | disjunction => exact disjunction setting same
  | conjunction => exact conjunction setting same
  | comparison => exact comparison setting same
  | sum => exact sum setting same
  | product => exact product setting same

theorem reading_primary (closed : rest.isClosed)
    (operand : ∀ setting : Setting, setting.follows = follows →
      reading rules (.rule (.operand mode)) setting cursor = .done trees rest)
    (setting : Setting) (same : setting.follows = follows) :
    reading rules (.rule (.primary mode)) setting cursor = .done trees rest := by
  rw [reading_rule]
  exact reading_leftward_closed (primaryStep_opens mode) closed (operand _ same)

end Operations

end InterfaceMocks.Grammar
