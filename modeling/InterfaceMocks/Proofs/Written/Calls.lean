import InterfaceMocks.Proofs.Written.Operands

/-!
Calls are read back: a name alone as an argument, a call of a field of the receiver, and the statement
made of it.
-/

namespace InterfaceMocks.Written

open InterfaceMocks.Syntax
open InterfaceMocks.Grammar

/-! Arguments, and the call that takes them. -/

section Calls

variable {follows ends : Bool} {held : List Tree} {rest : List Token}

def argumentTokens (more : List String) (rest : List Token) : List Token :=
  more.flatMap (fun text => [token "" .mark ",", token " " .word text])
    ++ token "" .mark ")" :: rest

theorem argumentTokens_tail (more : List String) (rest : List Token) :
    Tail follows (argumentTokens more rest) := by
  cases more with
  | nil => exact .close (.inr rfl)
  | cons text more => exact .close (.inl rfl)

theorem argumentTokens_closed (more : List String) (rest : List Token) :
    (⟨argumentTokens more rest, false⟩ : Cursor).isClosed := by
  cases more <;> exact .inr ⟨_, _, rfl, rfl, by simp [closers]⟩

theorem argumentTokens_uncalled (more : List String) (rest : List Token) :
    Uncalled (argumentTokens more rest) := by
  have tail : Tail false (argumentTokens more rest) := argumentTokens_tail more rest
  exact tail.uncalled (by simpa using argumentTokens_closed more rest)

theorem reading_argument {text : String} (plain : text ∉ typeWords) (space : String)
    (more : List String) :
    reading rules Expressions.argument ⟨false, ends, held⟩
        ⟨token space .word text :: argumentTokens more rest, false⟩ =
      .done [name (operandKind text) .plain space text] ⟨argumentTokens more rest, false⟩ := by
  have closed := argumentTokens_closed more rest
  have operand (setting : Setting) (flat : setting.follows = false) :
      reading rules (.rule (.operand .plain)) setting
          ⟨token space .word text :: argumentTokens more rest, false⟩ =
        .done [name (operandKind text) .plain space text] ⟨argumentTokens more rest, false⟩ := by
    obtain ⟨_, ends, held⟩ := setting
    subst flat
    rw [reading_operandName rfl plain space (argumentTokens_tail more rest)
      fun _ => argumentTokens_uncalled more rest, after_flat]
  have whole (setting : Setting) (flat : setting.follows = false) :
      reading rules (Expressions.expression .plain) setting
          ⟨token space .word text :: argumentTokens more rest, false⟩ =
        .done [name (operandKind text) .plain space text] ⟨argumentTokens more rest, false⟩ :=
    reading_operation closed (reading_primary closed operand) _ _ flat
  rw [Expressions.argument, reading_hold, whole _ (by simp)]
  cases more <;> simp [argumentTokens]

@[simp] theorem argument_nullable : Expressions.argument.nullable = false := rfl

@[simp] theorem argument_flat : Expressions.argument.startsWithTerminator = false := rfl

theorem reading_moreArguments {more : List String} (plain : ∀ text ∈ more, text ∉ typeWords) :
    reading rules (.many (.seq (.leaf .mark (.mark ",")) Expressions.argument))
        ⟨false, ends, held⟩ ⟨argumentTokens more rest, false⟩ =
      .done (more.flatMap fun text =>
          [mark "" ",", name (operandKind text) .plain " " text])
        ⟨argumentTokens [] rest, false⟩ := by
  induction more with
  | nil =>
      rw [reading_many]
      simp [argumentTokens]
  | cons text more ih =>
      have tokens : argumentTokens (text :: more) rest =
          token "" .mark "," :: token " " .word text :: argumentTokens more rest := by
        simp [argumentTokens]
      rw [reading_many, tokens]
      simp [reading_argument (plain text List.mem_cons_self) " " more,
        ih fun other member => plain other (List.mem_cons_of_mem _ member), mark]

theorem tokensOf_arguments (names : List String) (rest : List Token) :
    Tree.tokensOf (arguments names) ++ token "" .mark ")" :: rest =
      match names with
      | [] => argumentTokens [] rest
      | first :: more => token "" .word first :: argumentTokens more rest := by
  cases names with
  | nil => rfl
  | cons first more =>
      have later : Tree.tokensOf (more.flatMap fun text =>
          [mark "" ",", name (operandKind text) .plain " " text]) =
          more.flatMap fun text => [token "" .mark ",", token " " .word text] := by
        induction more with
        | nil => rfl
        | cons text more ih => simp [ih]
      simp [arguments, argumentTokens, later]

theorem reading_arguments {names : List String} (plain : ∀ text ∈ names, text ∉ typeWords) :
    reading rules (.rule .arguments) ⟨follows, ends, held⟩
        ⟨token "" .mark "(" :: (Tree.tokensOf (arguments names) ++ token "" .mark ")" :: rest),
          false⟩ =
      .done [.node .argumentList .plain (mark "" "(" :: arguments names ++ [mark "" ")"])]
        (Cursor.after rest follows) := by
  rw [reading_rule, rules, Expressions.arguments, tokensOf_arguments]
  cases names with
  | nil =>
      have closed : (⟨token "" .mark ")" :: rest, false⟩ : Cursor).isClosed :=
        argumentTokens_closed [] rest
      have none (setting : Setting) : reading rules Expressions.argument setting
          ⟨token "" .mark ")" :: rest, false⟩ = .mismatch :=
        reading_closed closed (by decide +kernel) setting
      simp [argumentTokens, none, arguments, mark]
  | cons first more =>
      have later (text : String) (member : text ∈ more) : text ∉ typeWords :=
        plain text (List.mem_cons_of_mem _ member)
      simp [reading_argument (plain first List.mem_cons_self) "" more, reading_moreArguments later]
      simp [argumentTokens, arguments, mark]

/-- Whether a name can stand for the receiver: it starts neither an expression nor a statement of
another form. -/
def ReceiverReadable (text : String) : Prop :=
  text ∉ expressionWords ∧ text ∉ statementWords

theorem ReceiverReadable.kind {text : String} (readable : ReceiverReadable text) :
    operandKind text = .identifier := by
  have words := readable.1
  simp only [expressionWords, typeWords, List.cons_append, List.nil_append, List.mem_cons,
    List.not_mem_nil, or_false, not_or] at words
  simp [operandKind, words]

theorem ReceiverReadable.plain {text : String} (readable : ReceiverReadable text) :
    text ∉ typeWords :=
  fun word => readable.1 (List.mem_append_left _ word)

theorem call_tokens (space receiver field : String) (args : List String) (rest : List Token) :
    (call space receiver field args).tokens ++ rest =
      token space .word receiver :: token "" .mark "." :: token "" .word field ::
        token "" .mark "(" :: (Tree.tokensOf (arguments args) ++ token "" .mark ")" :: rest) := by
  simp [call, tokensOf_append]

/-- A call of a field of the receiver is a whole expression, where nothing goes on with it. -/
theorem reading_call {mode : Mode} (braces : mode.braces = .anyName) {receiver : String}
    (readable : ReceiverReadable receiver) (space field : String) {args : List String}
    (plain : ∀ text ∈ args, text ∉ typeWords) (closed : (Cursor.after rest follows).isClosed) :
    reading rules (Expressions.expression mode) ⟨follows, ends, held⟩
        ⟨(call space receiver field args).tokens ++ rest, false⟩ =
      .done [call space receiver field args] (Cursor.after rest follows) := by
  have selected (follows ends : Bool) (more : List Token) :
      reading rules (primaryStep mode) ⟨follows, ends, [name .identifier .plain space receiver]⟩
          ⟨token "" .mark "." :: token "" .word field :: token "" .mark "(" :: more, false⟩ =
        .done [.node .selectorExpression .plain
            [name .identifier .operand space receiver, mark "" ".",
              name .fieldIdentifier .field "" field]]
          ⟨token "" .mark "(" :: more, false⟩ := by
    simp [primaryStep, Expressions.selector, name, mark]
  have called (ends : Bool) (operand : Tree) :
      reading rules (primaryStep mode) ⟨follows, ends, [operand]⟩
          ⟨token "" .mark "(" :: (Tree.tokensOf (arguments args) ++ token "" .mark ")" :: rest),
            false⟩ =
        .done [.node .callExpression .plain [operand.withRole .function,
            .node .argumentList .arguments (mark "" "(" :: arguments args ++ [mark "" ")"])]]
          (Cursor.after rest follows) := by
    simp [primaryStep, Expressions.selector, Expressions.assertion, Expressions.call,
      reading_arguments plain]
  have before : (Gram.grow (primaryStep mode)).terminatorBefore follows = follows := by
    simp [Gram.opens_flat (primaryStep_opens mode)]
  refine reading_operation closed (fun setting same => ?_) _ _ rfl
  obtain ⟨_, ends, held⟩ := setting
  subst same
  rw [call_tokens, reading_rule, rules,
    show Expressions.primary mode = .leftward (.rule (.operand mode)) (primaryStep mode) from rfl,
    Gram.leftward, reading_hold,
    reading_operandName braces readable.plain space (.select (by simp [Quiet]))
      (fun _ => by simp [Uncalled]), after_token, breaks_nothing, Bool.and_false,
    Reply.andThen_done, reading_grow]
  simp only [before, readable.kind]
  rw [selected, Reply.branch_done, reading_grow]
  simp only [before]
  rw [called, Reply.branch_done, reading_grow, reading_closed closed (primaryStep_opens mode),
    Reply.branch_mismatch]
  rfl

end Calls

section Statements

variable {follows ends : Bool} {held : List Tree} {rest : List Token}

theorem leaf_oneOf_nothing (kind : Kind) (cursor : Cursor) :
    cursor.leaf kind (.oneOf []) follows = .mismatch := by
  obtain ⟨tokens, broken⟩ := cursor
  cases tokens <;> simp [Cursor.leaf, Shape.take?]

theorem reading_declaration_word {text : String} (other : text ∉ ["const", "type", "var"])
    (space : String) :
    reading rules (.rule .declaration) ⟨follows, ends, held⟩
      ⟨token space .word text :: rest, false⟩ = .mismatch := by
  simp only [List.mem_cons, List.not_mem_nil, or_false, not_or] at other
  simp [reading_rule, rules, Statements.declaration, other]

theorem after_lastLine :
    Cursor.after (token "\n" .mark "\x7d" :: rest) true = ⟨token "\n" .mark "\x7d" :: rest, true⟩ := by
  simp [breaks]

theorem closed_lastLine : (Cursor.after (token "\n" .mark "\x7d" :: rest) true).isClosed := by
  rw [after_lastLine]
  exact .inl (.inr rfl)

/-- No further expression of a list stands on the last line of a body. -/
theorem reading_lastLine :
    reading rules (.many (.seq (.leaf .mark (.mark ",")) (.rule (.operation .disjunction .plain))))
      ⟨follows, ends, held⟩ ⟨token "\n" .mark "\x7d" :: rest, true⟩ =
        .done [] ⟨token "\n" .mark "\x7d" :: rest, true⟩ := by
  rw [reading_many]
  simp

/-- A call that is returned, before the brace that closes the body on the next line. -/
theorem reading_returnStatement {receiver : String} (readable : ReceiverReadable receiver)
    (space field : String) {args : List String} (plain : ∀ text ∈ args, text ∉ typeWords) :
    reading rules (.rule (.statement .block)) ⟨true, ends, held⟩
        ⟨(statement true space receiver field args).tokens
          ++ token "\n" .mark "\x7d" :: rest, false⟩ =
      .done [statement true space receiver field args]
        ⟨token "\n" .mark "\x7d" :: rest, true⟩ := by
  have flat : Cursor.after ((call " " receiver field args).tokens
        ++ token "\n" .mark "\x7d" :: rest) true =
      ⟨(call " " receiver field args).tokens ++ token "\n" .mark "\x7d" :: rest, false⟩ := by
    rw [call_tokens, after_token, breaks_blank, Bool.and_false]
  have called (ends : Bool) (held : List Tree) :
      reading rules (.rule (.operation .disjunction .plain)) ⟨true, ends, held⟩
          ⟨(call " " receiver field args).tokens ++ token "\n" .mark "\x7d" :: rest, false⟩ =
        .done [call " " receiver field args] ⟨token "\n" .mark "\x7d" :: rest, true⟩ := by
    rw [← after_lastLine]
    exact reading_call rfl readable " " field plain closed_lastLine
  have labeled (ends : Bool) (held : List Tree) (tail : List Token) :
      reading rules (Statements.labeled .block) ⟨true, ends, held⟩
        ⟨token space .word "return" :: tail, false⟩ = .mismatch := by
    simp [Statements.labeled, Statements.label, Place.reserved, statementWords]
  rw [reading_rule, rules, Statements.statement]
  simp [statement, labeled, reading_declaration_word, Statements.notClause, Place.clauseWords,
    Expressions.list, Expressions.expression, flat,
    called, reading_lastLine, keyword, leaf_oneOf_nothing]

/-- A call that stands alone, before the brace that closes the body on the next line. -/
theorem reading_callStatement {receiver : String} (readable : ReceiverReadable receiver)
    (space field : String) {args : List String} (plain : ∀ text ∈ args, text ∉ typeWords) :
    reading rules (.rule (.statement .block)) ⟨true, ends, held⟩
        ⟨(statement false space receiver field args).tokens
          ++ token "\n" .mark "\x7d" :: rest, false⟩ =
      .done [statement false space receiver field args]
        ⟨token "\n" .mark "\x7d" :: rest, true⟩ := by
  have called (ends : Bool) (held : List Tree) :
      reading rules (.rule (.operation .disjunction .leading)) ⟨true, ends, held⟩
          ⟨(call space receiver field args).tokens ++ token "\n" .mark "\x7d" :: rest, false⟩ =
        .done [call space receiver field args] ⟨token "\n" .mark "\x7d" :: rest, true⟩ := by
    rw [← after_lastLine]
    exact reading_call rfl readable space field plain closed_lastLine
  have simpleReads (ends : Bool) (held : List Tree) :
      reading rules (Statements.simple .leading .plain .plain) ⟨true, ends, held⟩
          ⟨(call space receiver field args).tokens ++ token "\n" .mark "\x7d" :: rest, false⟩ =
        .done [.node .expressionStatement .plain [call space receiver field args]]
          ⟨token "\n" .mark "\x7d" :: rest, true⟩ := by
    rw [call_tokens] at called ⊢
    simp [Statements.simple, called, Statements.heldList, Expressions.expression, reading_lastLine,
      Expressions.marks, Statements.assignmentOperator]
  -- the receiver's name starts no other statement
  have labeled (ends : Bool) (held : List Tree) (tail : List Token) :
      reading rules (Statements.labeled .block) ⟨true, ends, held⟩
        ⟨token space .word receiver :: token "" .mark "." :: tail, false⟩ = .mismatch := by
    by_cases word : receiver ∈ expressionWords ++ Place.reserved .block <;>
      simp [Statements.labeled, Statements.label, word]
  have words := readable.2
  simp only [statementWords, List.mem_cons, List.not_mem_nil, or_false, not_or] at words
  have declaration (ends : Bool) (held : List Tree) (tail : List Token) :
      reading rules (.rule .declaration) ⟨true, ends, held⟩
        ⟨token space .word receiver :: tail, false⟩ = .mismatch :=
    reading_declaration_word (by simp [words]) space
  have block (ends : Bool) (held : List Tree) (tail : List Token) :
      reading rules (.rule .block) ⟨true, ends, held⟩
        ⟨token space .word receiver :: tail, false⟩ = .mismatch := by
    simp [reading_rule, rules, Statements.block]
  have ifs (ends : Bool) (held : List Tree) (tail : List Token) :
      reading rules (.rule .ifStatement) ⟨true, ends, held⟩
        ⟨token space .word receiver :: tail, false⟩ = .mismatch := by
    rw [reading_rule, rules, Statements.ifStatement]
    simp [words]
  rw [call_tokens] at simpleReads
  have tokens : (statement false space receiver field args).tokens =
    (call space receiver field args).tokens := by simp [statement]
  rw [reading_rule, rules, Statements.statement, tokens, call_tokens]
  simp [labeled, declaration, block, ifs, words, Statements.forStatement,
    Statements.typeSwitch, Statements.expressionSwitch, Statements.select, Statements.jump,
    Place.reserved, statementWords, simpleReads, statement]

/-- The statement of a body, before the brace that closes it on the next line. -/
theorem reading_statement {receiver : String} (readable : ReceiverReadable receiver)
    (returns : Bool) (space field : String) {args : List String}
    (plain : ∀ text ∈ args, text ∉ typeWords) :
    reading rules (.rule (.statement .block)) ⟨true, ends, held⟩
        ⟨(statement returns space receiver field args).tokens
          ++ token "\n" .mark "\x7d" :: rest, false⟩ =
      .done [statement returns space receiver field args]
        ⟨token "\n" .mark "\x7d" :: rest, true⟩ := by
  cases returns with
  | true => exact reading_returnStatement readable space field plain
  | false => exact reading_callStatement readable space field plain

/-- The body of a mocked method. -/
theorem reading_block {receiver : String} (readable : ReceiverReadable receiver) (role : Role)
    (returns : Bool) (space field : String) {args : List String}
    (plain : ∀ text ∈ args, text ∉ typeWords) :
    reading rules (.rule .block) ⟨follows, ends, held⟩
        ⟨(block role space returns receiver field args).tokens ++ rest, false⟩ =
      .done [block .plain space returns receiver field args] (Cursor.after rest follows) := by
  have closed : (⟨token "\n" .mark "\x7d" :: rest, false⟩ : Cursor).isClosed :=
    .inr ⟨_, _, rfl, rfl, by simp [closers]⟩
  have noStatement (setting : Setting) : reading rules (.rule (.statement .block)) setting
      ⟨token "\n" .mark "\x7d" :: rest, false⟩ = .mismatch :=
    reading_closed closed (Gram.opens_rule _) setting
  have noLabel (setting : Setting) : reading rules (.rule (.emptyLabel .block)) setting
      ⟨token "\n" .mark "\x7d" :: rest, false⟩ = .mismatch :=
    reading_closed closed (Gram.opens_rule _) setting
  have alone (ends : Bool) (held : List Tree) : reading rules
      (.many (.seq .terminator (.rule (.statement .block)))) ⟨true, ends, held⟩
        ⟨token "\n" .mark "\x7d" :: rest, true⟩ =
          .done [] ⟨token "\n" .mark "\x7d" :: rest, true⟩ := by
    rw [reading_many]
    simp [Cursor.terminator, noStatement]
  have statements (ends : Bool) (held : List Tree) :
      reading rules (.rule (.statements .block)) ⟨false, ends, held⟩
          ⟨(statement returns space receiver field args).tokens
            ++ token "\n" .mark "\x7d" :: rest, false⟩ =
        .done [statement returns space receiver field args]
          ⟨token "\n" .mark "\x7d" :: rest, false⟩ := by
    rw [reading_rule, rules, Statements.statements]
    simp [reading_statement readable returns space field plain, alone, Cursor.terminator, noLabel]
  rw [reading_rule, rules, Statements.block]
  simp [block, statements, mark]

end Statements

end InterfaceMocks.Written
