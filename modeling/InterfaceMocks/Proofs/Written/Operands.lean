import InterfaceMocks.Proofs.Written.Parameters

/-!
A name as an operand. Where a type might stand as well, what comes after the name shows that none does:
neither a bracket nor a brace.
-/

namespace InterfaceMocks.Written

open InterfaceMocks.Syntax
open InterfaceMocks.Grammar

attribute [simp] Expressions.qualified Expressions.name Expressions.pointerTo
  Expressions.inParentheses Expressions.heldLiteral Expressions.literalBody

@[simp] theorem expression_nullable (mode : Mode) :
    (Expressions.expression mode).nullable = false := rfl

@[simp] theorem expression_flat (mode : Mode) :
    (Expressions.expression mode).startsWithTerminator = false := rfl

@[simp] theorem genericName_nullable : Expressions.genericName.nullable = false := rfl

@[simp] theorem genericName_flat : Expressions.genericName.startsWithTerminator = false := rfl

def allocators : List String := ["new", "make"]

/-! What comes after an expression. -/

def Quiet (tokens : List Token) : Prop :=
  ∀ next more, tokens = next :: more → next.lexeme = .mark → next.text ≠ "[" ∧ next.text ≠ "\x7b"

/-- The end of an expression, or a selector or a call that is applied to it. -/
inductive Tail (follows : Bool) : List Token → Prop where
  | none : Tail follows []
  | line {next more} (ends : follows = true) (starts : next.startsLine = true)
      (quiet : Quiet (next :: more)) (other : ¬ (next.lexeme = .mark ∧ next.text = ".")) :
      Tail follows (next :: more)
  | close {text more} (closer : text = "," ∨ text = ")") :
      Tail follows (token "" .mark text :: more)
  | call {more} : Tail follows (token "" .mark "(" :: more)
  | select {field more} (quiet : Quiet more) :
      Tail follows (token "" .mark "." :: token "" .word field :: more)

section Tails

variable {follows : Bool} {tokens : List Token}

theorem Tail.quiet (tail : Tail follows tokens) : Quiet tokens := by
  rintro next more rfl
  cases tail with
  | line ends starts quiet other => exact quiet next more rfl
  | close closer => rcases closer with rfl | rfl <;> simp
  | call => simp
  | select => simp

theorem Tail.closing {tail : List Token} : Tail follows (token "" .mark ")" :: tail) :=
  .close (.inr rfl)

theorem Tail.unlabeled (after : Tail follows tokens) :
    ∀ next more, tokens = next :: more →
      next.startsLine = true ∨ ¬ (next.lexeme = .mark ∧ next.text = ":") := by
  rintro next more rfl
  cases after with
  | line _ starts => exact .inl starts
  | close closer => rcases closer with rfl | rfl <;> exact .inr (by simp)
  | call => exact .inr (by simp)
  | select => exact .inr (by simp)

theorem Quiet.mark {next : Token} {more : List Token} (quiet : Quiet (next :: more)) :
    ¬ (next.lexeme = .mark ∧ next.text = "[") ∧ ¬ (next.lexeme = .mark ∧ next.text = "\x7b") :=
  ⟨fun ⟨isMark, same⟩ => (quiet next more rfl isMark).1 same,
    fun ⟨isMark, same⟩ => (quiet next more rfl isMark).2 same⟩

theorem Quiet.arguments (quiet : Quiet tokens) (broken : Bool) (setting : Setting) :
    reading rules (.rule .typeArguments) setting ⟨tokens, broken⟩ = .mismatch := by
  cases tokens with
  | nil => exact reading_closed (.inl (.inl rfl)) (Gram.opens_rule _) setting
  | cons next more => exact reading_typeArguments_other quiet.mark.1 setting

theorem Quiet.literal (quiet : Quiet tokens) (broken : Bool) (setting : Setting) :
    reading rules (.rule .literalValue) setting ⟨tokens, broken⟩ = .mismatch := by
  cases tokens with
  | nil => exact reading_closed (.inl (.inl rfl)) (Gram.opens_rule _) setting
  | cons next more =>
      cases broken <;> simp [reading_rule, rules, Expressions.literalValue, quiet.mark.2]

theorem Quiet.leaf (quiet : Quiet tokens) (broken : Bool) (kind : Kind) (follows : Bool) :
    Cursor.leaf kind (.mark "[") follows ⟨tokens, broken⟩ = .mismatch := by
  cases tokens with
  | nil => simp
  | cons next more => cases broken <;> simp [quiet.mark.1]

end Tails

/-! Names. -/

section Names

variable {follows ends : Bool} {held : List Tree} {tail : List Token} {text : String}

theorem reading_marked_word (plain : text ∉ typeWords) (space : String) :
    reading rules Expressions.marked ⟨follows, ends, held⟩
      ⟨token space .word text :: tail, false⟩ = .mismatch := by
  simp only [typeWords, List.mem_cons, List.not_mem_nil, or_false, not_or] at plain
  simp [Expressions.marked, Expressions.implicitArray, reading_rule, rules, Expressions.markedCore,
    plain]

/-- A name is one of a type with arguments only before a bracket. -/
theorem reading_genericName (after : Tail follows tail) (space : String) (setting : Setting) :
    reading rules Expressions.genericName setting ⟨token space .word text :: tail, false⟩ =
      .mismatch := by
  obtain ⟨_, ends, held⟩ := setting
  by_cases plain : text ∈ expressionWords
  · simp [Expressions.genericName, plain]
  · have arguments := after.quiet.arguments
    cases after with
    | none => simp [Expressions.genericName, plain, arguments]
    | line _ starts _ other =>
        cases ends <;> simp [Expressions.genericName, plain, starts, arguments, other]
    | close closer => rcases closer with rfl | rfl <;> simp [Expressions.genericName, plain, arguments]
    | call => simp [Expressions.genericName, plain, arguments]
    | select quiet => simp [Expressions.genericName, plain, quiet.arguments, arguments]

theorem reading_genericCore (after : Tail follows tail) (space : String) (setting : Setting) :
    reading rules (.rule .genericCore) setting ⟨token space .word text :: tail, false⟩ =
      .mismatch := by
  have generic := fun setting => @reading_genericName follows tail text after space setting
  simp [reading_rule, rules, Expressions.genericCore, generic]

/-- Whatever is seen ahead, no type with arguments is there. -/
theorem reading_conversion {tokens : List Token}
    (none : ∀ setting, reading rules (.rule .genericCore) setting ⟨tokens, false⟩ = .mismatch)
    (setting : Setting) :
    reading rules Expressions.genericConversion setting ⟨tokens, false⟩ = .mismatch := by
  have settled := fun setting => reading_settled
    (by decide +kernel : Gram.fits Rule.rank 62 (.alt Expressions.wholeName
      (.seq (.many (.punct "*")) (.punct "("))) = true)
    setting ⟨tokens, false⟩
  rw [Expressions.genericConversion, reading_seq, reading_ahead]
  rcases settled _ with missing | ⟨trees, next, found⟩
  · rw [missing, Reply.branch_mismatch, Reply.andThen_mismatch]
  · rw [found, Reply.branch_done, Reply.andThen_done]
    simp [none]

theorem reading_namedLiteral (after : Tail follows tail) (space : String) (setting : Setting) :
    reading rules (Expressions.namedLiteral .anyName) setting
      ⟨token space .word text :: tail, false⟩ = .mismatch := by
  have generic := fun setting => @reading_genericName follows tail text after space setting
  obtain ⟨_, ends, held⟩ := setting
  by_cases plain : text ∈ expressionWords
  · simp [Expressions.namedLiteral, generic, plain]
  · have literal := after.quiet.literal
    cases after with
    | none => simp [Expressions.namedLiteral, generic, plain, literal]
    | line _ starts _ other =>
        cases ends <;> simp [Expressions.namedLiteral, generic, plain, starts, literal, other]
    | close closer =>
        rcases closer with rfl | rfl <;> simp [Expressions.namedLiteral, generic, plain, literal]
    | call => simp [Expressions.namedLiteral, generic, plain, literal]
    | select quiet => simp [Expressions.namedLiteral, generic, plain, quiet.literal, literal]

theorem reading_instantiated (after : Tail follows tail) (space : String) (setting : Setting) :
    reading rules Expressions.instantiated setting
      ⟨token space .word text :: tail, false⟩ = .mismatch := by
  have generic := fun setting => @reading_genericName follows tail text after space setting
  obtain ⟨_, ends, held⟩ := setting
  by_cases plain : text ∈ expressionWords
  · simp [Expressions.instantiated, generic, plain]
  · have bracket := after.quiet.leaf
    cases after with
    | none => simp [Expressions.instantiated, generic, plain, Expressions.severalTypes]
    | line _ starts _ other =>
        cases ends <;>
          simp [Expressions.instantiated, generic, plain, Expressions.severalTypes, starts, bracket,
            other]
    | close closer =>
        rcases closer with rfl | rfl <;>
          simp [Expressions.instantiated, generic, plain, Expressions.severalTypes]
    | call => simp [Expressions.instantiated, generic, plain, Expressions.severalTypes]
    | select quiet =>
        simp [Expressions.instantiated, generic, plain, Expressions.severalTypes, quiet.leaf]

@[simp] theorem atLineStart_after (next : Token) (more : List Token) (follows : Bool) :
    (Cursor.after (next :: more) follows).atLineStart = next.startsLine := rfl

/-- What `new` and `make` are applied to, if anything, is on the next line. -/
def Uncalled (tokens : List Token) : Prop :=
  ∀ next more, tokens = next :: more → next.startsLine = true ∨ next.text ≠ "("

theorem Tail.uncalled (after : Tail follows tail) (closed : (Cursor.after tail follows).isClosed) :
    Uncalled tail := by
  rintro next more rfl
  cases after with
  | line _ starts => exact .inl starts
  | close closer => rcases closer with rfl | rfl <;> exact .inr (by simp)
  | call =>
      rcases closed with (none | broken) | ⟨_, _, same, _, closer⟩
      · simp [Cursor.after] at none
      · simp [Cursor.after] at broken
      · obtain ⟨rfl, -⟩ := List.cons.inj same
        simp [closers] at closer
  | select => exact .inr (by simp)

theorem reading_allocation (after : Tail follows tail) (uncalled : Uncalled tail)
    (allocator : text ∈ allocators) (space : String) :
    reading rules Expressions.allocation ⟨follows, follows, held⟩
        ⟨token space .word text :: tail, false⟩ =
      .done [name .identifier .plain space text] (Cursor.after tail follows) := by
  have word : text ∈ ["new", "make"] := allocator
  cases after with
  | none => simp [Expressions.allocation, Expressions.allocator, Expressions.typeFirstArguments, word, name]
  | line ends starts quiet other =>
      subst ends
      simp [Expressions.allocation, Expressions.allocator, Expressions.typeFirstArguments, word,
        starts, name]
  | close closer =>
      rcases closer with rfl | rfl <;>
        simp [Expressions.allocation, Expressions.allocator, Expressions.typeFirstArguments, word,
          name]
  | call => simpa using uncalled _ _ rfl
  | select quiet =>
      simp [Expressions.allocation, Expressions.allocator, Expressions.typeFirstArguments, word, name]

/-- A name is a whole operand. -/
theorem reading_operandName {mode : Mode} (braces : mode.braces = .anyName)
    (plain : text ∉ typeWords) (space : String) (after : Tail follows tail)
    (uncalled : text ∈ allocators → Uncalled tail) :
    reading rules (.rule (.operand mode)) ⟨follows, ends, held⟩
        ⟨token space .word text :: tail, false⟩ =
      .done [name (operandKind text) .plain space text] (Cursor.after tail follows) := by
  rw [reading_rule, rules, Expressions.operand, braces]
  have notFunc : text ≠ "func" := fun same => plain (by simp [same, typeWords])
  by_cases literal : text ∈ ["nil", "true", "false", "iota"]
  · simp only [List.mem_cons, List.not_mem_nil, or_false] at literal
    rcases literal with rfl | rfl | rfl | rfl <;> simp [Expressions.literal, operandKind, name]
  · simp only [List.mem_cons, List.not_mem_nil, or_false, not_or] at literal
    have kind : operandKind text = .identifier := by simp [operandKind, literal]
    by_cases allocator : text ∈ allocators
    · simp [Expressions.literal, literal, kind,
        reading_allocation after (uncalled allocator) allocator]
    · have word : text ∉ expressionWords := by
        simp_all [expressionWords, allocators]
      simp only [allocators, List.mem_cons, List.not_mem_nil, or_false, not_or] at allocator
      simp [Expressions.literal, Expressions.allocation, Expressions.allocator,
        Expressions.functionLiteral, Expressions.parenthesized, literal, allocator, notFunc, word,
        reading_marked_word plain, reading_conversion (reading_genericCore after space),
        reading_namedLiteral after, reading_instantiated after, kind, name]

end Names

end InterfaceMocks.Written
