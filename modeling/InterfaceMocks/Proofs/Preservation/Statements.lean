import InterfaceMocks.Proofs.Preservation.Expressions

/-!
Statements are read back, and the bodies that are made of them. A statement ends with its line: no
statement starts with what could go on with the one before it.
-/

namespace InterfaceMocks.Preservation

open InterfaceMocks.Syntax InterfaceMocks.Grammar
open InterfaceMocks.Written

/-! Sound statements. -/

def Expr.lead? : Expr → Option String
  | .name text => some text
  | .int _ => none
  | .selector operand _ => operand.lead?
  | .paren _ => none
  | .call function _ => function.lead?
  | .allocation word _ _ => some word

def Statement.Sound : Statement → Prop
  | .return values => values.Sound
  | .expression value => value.Sound ∧ ∀ word ∈ value.lead?, word ∉ statementWords

/-! Where the next line starts. -/

structure NextLine (next : Token) (more : List Token) : Prop where
  starts : next.startsLine = true
  quiet : Quiet (next :: more)
  other : ¬ (next.lexeme = .mark ∧ next.text = ".")

/-- How a statement starts: with a word that is neither a keyword of another statement nor a label,
with a number, or with a parenthesis. -/
inductive Opening (space : String) : List Token → Prop where
  | word {text rest} (free : text ∉ statementWords)
      (unlabeled : ∀ next more, rest = next :: more →
        next.startsLine = true ∨ ¬ (next.lexeme = .mark ∧ next.text = ":")) :
      Opening space (token space .word text :: rest)
  | int {text rest} : Opening space (token space .int text :: rest)
  | paren {rest} : Opening space (token space .mark "(" :: rest)

section Openings

variable {follows ends : Bool} {held : List Tree} {space : String} {tokens tail : List Token}

theorem NextLine.ended {next : Token} {more : List Token} (line : NextLine next more) :
    Tail true (next :: more) := .line rfl line.starts line.quiet line.other

theorem NextLine.after {next : Token} {more : List Token} (line : NextLine next more) :
    Cursor.after (next :: more) true = ⟨next :: more, true⟩ := by
  simp [Cursor.after, line.starts]

theorem Expr.opening (expr : Expr) (free : ∀ word ∈ expr.lead?, word ∉ statementWords)
    (space : String) {tail : List Token} (after : Tail follows tail) :
    Opening space ((expr.tree .plain space).tokens ++ tail) := by
  match expr, free with
  | .name text, free => exact .word (free text rfl) after.unlabeled
  | .int text, _ => exact .int
  | .selector operand field, free =>
      rw [selector_tokens]
      exact operand.opening free space (@Tail.select follows field tail after.quiet)
  | .paren inner, _ =>
      rw [paren_tokens]
      exact .paren
  | .call function arguments, free =>
      rw [call_tokens]
      exact function.opening free space (@Tail.call follows _)
  | .allocation word type arguments, free =>
      rw [allocation_tokens]
      exact .word (free word rfl) (@Tail.call follows _).unlabeled

theorem Opening.nextLine (opening : Opening space tokens) (breaks : breaks space = true) :
    ∃ next more, tokens = next :: more ∧ NextLine next more := by
  have quiet {lexeme : Lexeme} {text : String} {rest : List Token}
      (other : ¬ (lexeme = .mark ∧ (text = "[" ∨ text = "\x7b"))) :
      Quiet (token space lexeme text :: rest) := by
    rintro next more same isMark
    obtain ⟨rfl, -⟩ := List.cons.inj same
    simp_all
  cases opening with
  | word free => exact ⟨_, _, rfl, by simpa using breaks, quiet (by simp), by simp⟩
  | int => exact ⟨_, _, rfl, by simpa using breaks, quiet (by simp), by simp⟩
  | paren => exact ⟨_, _, rfl, by simpa using breaks, quiet (by simp), by simp⟩

/-- No statement of another form is there. -/
theorem Opening.simple (opening : Opening space tokens) {trees : List Tree} {rest : Cursor}
    (simple : ∀ ends held, reading rules (Statements.simple .leading .plain .plain)
      ⟨true, ends, held⟩ ⟨tokens, false⟩ = .done trees rest) :
    reading rules (.rule (.statement .block)) ⟨true, ends, held⟩ ⟨tokens, false⟩ =
      .done trees rest := by
  rw [reading_rule, rules, Statements.statement]
  cases opening with
  | @word text rest free unlabeled =>
      have labeled (held : List Tree) :
          reading rules (Statements.labeled .block) ⟨true, true, held⟩
            ⟨token space .word text :: rest, false⟩ = .mismatch := by
        by_cases word : text ∈ expressionWords ++ Place.reserved .block
        · simp [Statements.labeled, Statements.label, word]
        · cases rest with
          | nil => simp [Statements.labeled, Statements.label, word]
          | cons next more =>
              rcases unlabeled next more rfl with starts | other
              · simp [Statements.labeled, Statements.label, word, starts]
              · cases starts : next.startsLine <;>
                  simp [Statements.labeled, Statements.label, word, starts, other]
      simp only [statementWords, List.mem_cons, List.not_mem_nil, or_false, not_or] at free
      simp [labeled, free, reading_rule, rules, Statements.declaration, Statements.ifStatement,
        Statements.block, Statements.forStatement, Statements.typeSwitch,
        Statements.expressionSwitch, Statements.select, Statements.jump, Place.reserved,
        statementWords, simple]
  | int =>
      simp [Statements.labeled, Statements.label, reading_rule, rules, Statements.declaration,
        Statements.ifStatement, Statements.block, Statements.forStatement, Statements.typeSwitch,
        Statements.expressionSwitch, Statements.select, Statements.jump, simple]
  | paren =>
      simp [Statements.labeled, Statements.label, reading_rule, rules, Statements.declaration,
        Statements.ifStatement, Statements.block, Statements.forStatement, Statements.typeSwitch,
        Statements.expressionSwitch, Statements.select, Statements.jump, simple]

end Openings

/-! Statements, each on a line of its own. -/

structure StatementReads (tree : Tree) : Prop where
  starts : ∀ {next more}, NextLine next more → ∃ first rest,
    tree.tokens ++ next :: more = first :: rest ∧ NextLine first rest
  reads : ∀ {next more}, NextLine next more → ∀ ends held,
    reading rules (.rule (.statement .block)) ⟨true, ends, held⟩
        ⟨tree.tokens ++ next :: more, false⟩ =
      .done [tree] ⟨next :: more, true⟩

section Statements

variable {follows ends : Bool} {held : List Tree} {space : String} {next : Token}
  {more : List Token}

theorem NextLine.closed (line : NextLine next more) :
    (Cursor.after (next :: more) true).isClosed := by
  rw [line.after]
  exact .inl (.inr rfl)

theorem expression_statement {value : Expr} (sound : (Statement.expression value).Sound)
    (breaks : breaks space = true) : StatementReads ((Statement.expression value).tree space) where
  starts line := by
    simpa [Statement.tree] using
      (value.opening sound.2 space line.ended).nextLine breaks
  reads {next more} line ends held := by
    have whole (ends : Bool) (held : List Tree) :=
      (value.reads sound.1).whole (rfl : Mode.leading.braces = .anyName) space line.ended line.closed
        ends held
    have none (follows ends : Bool) (held : List Tree) : reading rules
        (.many (.seq (.leaf .mark (.mark ",")) (Expressions.expression .plain)))
        ⟨follows, ends, held⟩ ⟨next :: more, true⟩ = .done [] ⟨next :: more, true⟩ := by
      rw [reading_many]
      simp
    rw [line.after] at whole
    have tokens : ((Statement.expression value).tree space).tokens =
      (value.tree .plain space).tokens := by simp [Statement.tree]
    rw [tokens]
    refine (value.opening sound.2 space line.ended).simple fun ends held => ?_
    simp [Statements.simple, whole, Statements.heldList, none, Expressions.marks,
      Statements.assignmentOperator, Statement.tree]

theorem return_labeled (tail : List Token) :
    reading rules (Statements.labeled .block) ⟨true, ends, held⟩
      ⟨token space .word "return" :: tail, false⟩ = .mismatch := by
  simp [Statements.labeled, Statements.label, Place.reserved, statementWords]

theorem return_statement {values : Arguments} (sound : values.Sound)
    (breaks : breaks space = true) : StatementReads ((Statement.return values).tree space) where
  starts line := by
    have tokens : ∃ rest, ((Statement.return values).tree space).tokens =
        token space .word "return" :: rest := by
      cases values <;> exact ⟨_, rfl⟩
    obtain ⟨rest, tokens⟩ := tokens
    refine ⟨_, _, by rw [tokens, List.cons_append], by simpa using breaks, ?_, by simp⟩
    rintro next more same isMark
    obtain ⟨rfl, -⟩ := List.cons.inj same
    simp at isMark
  reads {next more} line ends held := by
    have stops (kind : Kind) (follows' : Bool) : Cursor.leaf kind (.mark ",") follows'
        (Cursor.after (next :: more) true) = .mismatch := by
      rw [line.after]
      simp
    rw [reading_rule, rules, Statements.statement]
    cases values with
    | nil =>
        have none (setting : Setting) : reading rules Expressions.list setting
            (Cursor.after (next :: more) true) = .mismatch :=
          reading_closed line.closed (by decide +kernel) setting
        rw [line.after] at none
        simp [Statement.tree, return_labeled, reading_declaration_word, Statements.notClause,
          Place.clauseWords, line.after, none, keyword]
    | cons first rest =>
        have flat := (first.start sound.1 " " (Tree.tokensOf rest.more ++ next :: more)).flat
          (by simp) true
        have items := expression_reads line.ended line.closed
        have here := items first (first.reads sound.1) " " _ (rest.more_start _)
        have later (ends : Bool) (held : List Tree) := @reading_moreItems true ends held _ _
          items rfl rfl stops rest (rest.reads sound.2)
        rw [line.after] at later
        simp [Statement.tree, Arguments.trees, return_labeled, reading_declaration_word,
          Statements.notClause, Place.clauseWords, leaf_oneOf_nothing, flat, here, later,
          Expressions.list, keyword]

theorem Statement.reads {statement : Statement} (sound : statement.Sound)
    (breaks : breaks space = true) : StatementReads (statement.tree space) := by
  cases statement with
  | «return» values => exact return_statement sound breaks
  | expression value => exact expression_statement sound breaks

theorem statements_start {trees : List Tree} (each : ∀ tree ∈ trees, StatementReads tree)
    (line : NextLine next more) :
    ∃ first rest, Tree.tokensOf trees ++ next :: more = first :: rest ∧ NextLine first rest := by
  induction trees with
  | nil => exact ⟨next, more, rfl, line⟩
  | cons tree trees ih =>
      obtain ⟨first, rest, same, later⟩ := ih fun other member =>
        each other (List.mem_cons_of_mem _ member)
      obtain ⟨first', rest', same', here⟩ := (each tree List.mem_cons_self).starts later
      exact ⟨first', rest', by simpa [same] using same', here⟩

theorem reading_moreStatements {trees : List Tree} (each : ∀ tree ∈ trees, StatementReads tree)
    (line : NextLine next more)
    (refused : ∀ setting, reading rules (.rule (.statement .block)) setting ⟨next :: more, false⟩ =
      .mismatch) :
    reading rules (.many (.seq .terminator (.rule (.statement .block)))) ⟨true, ends, held⟩
        ⟨Tree.tokensOf trees ++ next :: more, true⟩ = .done trees ⟨next :: more, true⟩ := by
  induction trees with
  | nil =>
      rw [reading_many]
      simp [Cursor.terminator, refused]
  | cons tree trees ih =>
      have others : ∀ other ∈ trees, StatementReads other := fun other member =>
        each other (List.mem_cons_of_mem _ member)
      obtain ⟨first, rest, same, later⟩ := statements_start others line
      have here := (each tree List.mem_cons_self).reads later
      have after := ih others
      rw [same] at after
      rw [reading_many]
      simp [Cursor.terminator, same, here, after]

/-- A body is read back. -/
theorem reading_body {statements : List Statement} (sound : ∀ one ∈ statements, one.Sound)
    (tail : List Token) :
    reading rules (.rule .block) ⟨follows, ends, held⟩
        ⟨(bodyTree statements).tokens ++ tail, false⟩ =
      .done [(bodyTree statements).withRole .plain] (Cursor.after tail follows) := by
  have closed : (⟨token "\n" .mark "\x7d" :: tail, false⟩ : Cursor).isClosed :=
    .inr ⟨_, _, rfl, rfl, by simp [closers]⟩
  have noStatement (setting : Setting) : reading rules (.rule (.statement .block)) setting
      ⟨token "\n" .mark "\x7d" :: tail, false⟩ = .mismatch :=
    reading_closed closed (Gram.opens_rule _) setting
  have noLabel (setting : Setting) : reading rules (.rule (.emptyLabel .block)) setting
      ⟨token "\n" .mark "\x7d" :: tail, false⟩ = .mismatch :=
    reading_closed closed (Gram.opens_rule _) setting
  have line : NextLine (token "\n" .mark "\x7d") tail := by
    refine ⟨by simp [breaks], ?_, by simp⟩
    rintro next more same isMark
    obtain ⟨rfl, -⟩ := List.cons.inj same
    simp
  have listed (ends : Bool) (held : List Tree) :
      reading rules (.optional (.rule (.statements .block))) ⟨false, ends, held⟩
          ⟨Tree.tokensOf (statements.map (Statement.tree (lineAt 1)))
            ++ token "\n" .mark "\x7d" :: tail, false⟩ =
        .done (statements.map (Statement.tree (lineAt 1)))
          ⟨token "\n" .mark "\x7d" :: tail, false⟩ := by
    simp only [Gram.optional, reading_alt]
    rw [reading_rule, rules, Statements.statements]
    cases statements with
    | nil => simp [noStatement, noLabel]
    | cons first others =>
        have each : ∀ tree ∈ others.map (Statement.tree (lineAt 1)), StatementReads tree := by
          intro tree member
          obtain ⟨one, among, rfl⟩ := List.mem_map.1 member
          exact Statement.reads (sound one (List.mem_cons_of_mem _ among)) (by simp)
        obtain ⟨next, more, same, later⟩ := statements_start each line
        have here := (Statement.reads (sound first List.mem_cons_self)
          (breaks_lineAt 1)).reads later
        have others (ends : Bool) (held : List Tree) :=
          @reading_moreStatements ends held _ _ _ each line noStatement
        rw [same] at others
        simp [same, here, others, Cursor.terminator, noLabel]
  rw [reading_rule, rules, Statements.block]
  simp only [Gram.optional, reading_alt, reading_empty] at listed
  simp [bodyTree, tokensOf_append, listed, mark]

end Statements

end InterfaceMocks.Preservation
