import InterfaceMocks.Proofs.Preservation.Types

/-!
Expressions are read back. An expression is an operand with the selectors and calls that are applied
to it, one after the other.
-/

namespace InterfaceMocks.Preservation

open InterfaceMocks.Syntax InterfaceMocks.Grammar
open InterfaceMocks.Written

/-! Sound expressions. -/

def Expr.isInt : Expr → Bool
  | .int _ => true
  | _ => false

def Expr.isAllocator : Expr → Bool
  | .name text => allocators.contains text
  | _ => false

mutual

def Expr.Sound : Expr → Prop
  | .name text => IsName text ∧ text ∉ typeWords
  | .int text => Number.isInt text = true
  | .selector operand field => operand.Sound ∧ operand.isInt = false ∧ IsName field
  | .paren inner => inner.Sound
  -- what is called with a type is an allocation
  | .call function arguments =>
      function.Sound ∧ arguments.Sound ∧ (function.isAllocator = true → arguments = .nil)
  | .allocation word type arguments =>
      word ∈ allocators ∧ IsName type ∧ type ∉ typeWords ∧ arguments.Sound

def Arguments.Sound : Arguments → Prop
  | .nil => True
  | .cons first rest => first.Sound ∧ rest.Sound

end

/-! Expressions in parentheses, which are not taken for a type there. -/

/-- How an expression starts: with a number or a word that starts no type, perhaps in
parentheses. -/
inductive ExprStart : String → List Token → Prop where
  | word {space text rest} (plain : text ∉ typeWords) :
      ExprStart space (token space .word text :: rest)
  | int {space text rest} : ExprStart space (token space .int text :: rest)
  | paren {space rest} (inner : ExprStart "" rest) : ExprStart space (token space .mark "(" :: rest)

theorem ExprStart.flat {space : String} {tokens : List Token} (start : ExprStart space tokens)
    (joined : breaks space = false) (follows : Bool) :
    Cursor.after tokens follows = ⟨tokens, false⟩ := by
  cases start <;> simp [joined]

theorem ExprStart.core {space : String} {tokens : List Token} (start : ExprStart space tokens)
    (setting : Setting) :
    reading rules (.rule .markedCore) setting ⟨tokens, false⟩ = .mismatch := by
  induction start generalizing setting with
  | word plain =>
      simp only [typeWords, List.mem_cons, List.not_mem_nil, or_false, not_or] at plain
      simp [reading_rule, rules, Expressions.markedCore, plain]
  | int => simp [reading_rule, rules, Expressions.markedCore]
  | paren inner ih => simp [reading_rule, rules, Expressions.markedCore, ih]

theorem Expr.withRole_tree (expr : Expr) (role other : Role) (space : String) :
    (expr.tree other space).withRole role = expr.tree role space := by
  cases expr <;> simp [Expr.tree, Written.name]

theorem Expr.tokens_role (expr : Expr) (role other : Role) (space : String) :
    (expr.tree role space).tokens = (expr.tree other space).tokens := by
  rw [← expr.withRole_tree role other, tokens_withRole]

theorem selector_tokens (operand : Expr) (field space : String) (role : Role) (tail : List Token) :
    ((Expr.selector operand field).tree role space).tokens ++ tail =
      (operand.tree .plain space).tokens
        ++ token "" .mark "." :: token "" .word field :: tail := by
  simp [Expr.tree, operand.tokens_role .operand .plain]

theorem paren_tokens (inner : Expr) (space : String) (role : Role) (tail : List Token) :
    ((Expr.paren inner).tree role space).tokens ++ tail =
      token space .mark "(" :: ((inner.tree .plain "").tokens ++ token "" .mark ")" :: tail) := by
  simp [Expr.tree]

def Arguments.closing (arguments : Arguments) (tail : List Token) : List Token :=
  Tree.tokensOf (arguments.trees "") ++ token "" .mark ")" :: tail

theorem call_tokens (function : Expr) (arguments : Arguments) (space : String) (role : Role)
    (tail : List Token) :
    ((Expr.call function arguments).tree role space).tokens ++ tail =
      (function.tree .plain space).tokens
        ++ token "" .mark "(" :: arguments.closing tail := by
  simp [Expr.tree, Arguments.closing, tokensOf_append, function.tokens_role .function .plain]

theorem allocation_tokens (word type : String) (arguments : Arguments) (space : String)
    (role : Role) (tail : List Token) :
    ((Expr.allocation word type arguments).tree role space).tokens ++ tail =
      token space .word word :: token "" .mark "(" :: token "" .word type
        :: (Tree.tokensOf arguments.more ++ token "" .mark ")" :: tail) := by
  simp [Expr.tree, tokensOf_append]

theorem allocator_plain {word : String} (allocator : word ∈ allocators) : word ∉ typeWords := by
  simp only [allocators, List.mem_cons, List.not_mem_nil, or_false] at allocator
  rcases allocator with rfl | rfl <;> simp [typeWords]

theorem Expr.start (expr : Expr) (sound : expr.Sound) (space : String) (tail : List Token) :
    ExprStart space ((expr.tree .plain space).tokens ++ tail) := by
  match expr, sound with
  | .name text, sound => exact .word sound.2
  | .int text, _ => exact .int
  | .selector operand field, sound =>
      rw [selector_tokens]
      exact operand.start sound.1 space _
  | .paren inner, sound =>
      rw [paren_tokens]
      exact .paren (inner.start sound "" _)
  | .call function arguments, sound =>
      rw [call_tokens]
      exact function.start sound.1 space _
  | .allocation word type arguments, sound =>
      rw [allocation_tokens]
      exact .word (allocator_plain sound.1)

/-- No type with arguments is there. -/
theorem Expr.genericCore (expr : Expr) (space : String) {follows : Bool} {tail : List Token}
    (after : Tail follows tail) (setting : Setting) :
    reading rules (.rule .genericCore) setting ⟨(expr.tree .plain space).tokens ++ tail, false⟩ =
      .mismatch := by
  match expr with
  | .name text => exact reading_genericCore after space setting
  | .int text => simp [Expr.tree, reading_rule, rules, Expressions.genericCore, Expressions.genericName]
  | .selector operand field =>
      rw [selector_tokens]
      exact operand.genericCore space (@Tail.select follows field tail after.quiet) setting
  | .paren inner =>
      have none (setting : Setting) := inner.genericCore "" (@Tail.closing follows tail) setting
      rw [paren_tokens]
      simp [reading_rule, rules, Expressions.genericCore, Expressions.genericName, none]
  | .call function arguments =>
      rw [call_tokens]
      exact function.genericCore space (@Tail.call follows _) setting
  | .allocation word type arguments =>
      rw [allocation_tokens]
      exact reading_genericCore (@Tail.call follows _) space setting

/-- What is left after a type is read from the start of an expression: all that comes after the
expression, or what is applied to its first part. -/
inductive Halts (tail : List Token) : Cursor → Prop where
  | whole {follows} : Halts tail (Cursor.after tail follows)
  | applied {text more broken} (mark : text = "." ∨ text = "(") :
      Halts tail ⟨token "" .mark text :: more, broken⟩
  | selected {field more follows} (same : tail = token "" .mark "." :: token "" .word field :: more) :
      Halts tail (Cursor.after more follows)

/-- A type that is read from the start of an expression halts at its end or at what is applied. -/
def TypeHalts (tokens tail : List Token) : Prop :=
  ∀ setting, reading rules (.rule .typeOperand) setting ⟨tokens, false⟩ = .mismatch ∨
    ∃ trees cursor, reading rules (.rule .typeOperand) setting ⟨tokens, false⟩ = .done trees cursor
      ∧ Halts tail cursor

theorem name_typeHalts {text : String} (plain : text ∉ typeWords) (space : String) {follows : Bool}
    {tail : List Token} (after : Tail follows tail) :
    TypeHalts (token space .word text :: tail) tail := by
  rintro ⟨follows', ends, held⟩
  have generic := fun setting => @reading_genericName follows tail text after space setting
  have words : text ≠ "func" ∧ text ≠ "map" ∧ text ≠ "struct" ∧ text ≠ "interface"
      ∧ text ≠ "chan" := by simpa [typeWords] using plain
  rw [reading_rule, rules, Expressions.typeOperand]
  by_cases reserved : text ∈ expressionWords
  · exact .inl (by simp [words, generic, reserved])
  · right
    cases after with
    | @select field more quiet =>
        refine ⟨[(Ty.qualified text field).tree .plain space 0], Cursor.after more follows', ?_,
          .selected rfl⟩
        simp [words, generic, reserved, Ty.tree, name, mark]
    | none =>
        refine ⟨[name .typeIdentifier .plain space text], Cursor.after _ follows', ?_, .whole⟩
        simp [words, generic, reserved, name]
    | line _ starts _ other =>
        refine ⟨[name .typeIdentifier .plain space text], Cursor.after _ follows', ?_, .whole⟩
        cases follows' <;> simp [words, generic, reserved, starts, other, name]
    | close closer =>
        refine ⟨[name .typeIdentifier .plain space text], Cursor.after _ follows', ?_, .whole⟩
        rcases closer with rfl | rfl <;> simp [words, generic, reserved, name]
    | call =>
        refine ⟨[name .typeIdentifier .plain space text], Cursor.after _ follows', ?_, .whole⟩
        simp [words, generic, reserved, name]

/-- A type that is read from what is called is not more than that. -/
theorem TypeHalts.called {tokens more : List Token}
    (halts : TypeHalts tokens (token "" .mark "(" :: more)) (tail : List Token) :
    TypeHalts tokens tail := by
  intro setting
  refine (halts setting).imp_right fun ⟨trees, cursor, found, stops⟩ => ⟨trees, cursor, found, ?_⟩
  cases stops with
  | whole => exact .applied (.inr rfl)
  | applied mark => exact .applied mark
  | selected same => simp [token] at same

theorem Expr.typeHalts (expr : Expr) (sound : expr.Sound) (space : String) {follows : Bool}
    {tail : List Token} (after : Tail follows tail) :
    TypeHalts ((expr.tree .plain space).tokens ++ tail) tail := by
  cases expr with
  | name text => exact name_typeHalts sound.2 space after
  | int text =>
      intro setting
      exact .inl (by simp [Expr.tree, reading_rule, rules, Expressions.typeOperand,
        Expressions.genericName])
  | selector operand field =>
      have halts := operand.typeHalts sound.1 space (@Tail.select follows field tail after.quiet)
      rw [selector_tokens]
      intro setting
      refine (halts setting).imp_right ?_
      rintro ⟨trees, cursor, found, stops⟩
      refine ⟨trees, cursor, found, ?_⟩
      cases stops with
      | whole => exact .applied (.inl rfl)
      | applied mark => exact .applied mark
      | selected same =>
          obtain ⟨-, rfl⟩ := List.cons.inj (List.cons.inj same).2
          exact .whole
  | paren inner =>
      have halts := inner.typeHalts sound "" (@Tail.closing follows tail)
      rw [paren_tokens]
      rintro ⟨follows', ends, held⟩
      rw [reading_rule, rules, Expressions.typeOperand]
      rcases halts ⟨false, follows', []⟩ with none | ⟨trees, cursor, found, stops⟩
      · exact .inl (by simp [Expressions.genericName, none])
      · cases stops with
        | whole =>
            right
            refine ⟨[.node .parenthesizedType .plain
              (mark space "(" :: (trees ++ [mark "" ")"]))], Cursor.after tail follows', ?_, .whole⟩
            simp [Expressions.genericName, found, mark]
        | @applied _ _ broken text =>
            left
            rcases text with rfl | rfl <;> cases broken <;>
              simp [Expressions.genericName, found]
        | selected same => simp [token] at same
  | call function arguments =>
      rw [call_tokens]
      exact (function.typeHalts sound.1 space (@Tail.call follows _)).called tail
  | allocation word type arguments =>
      rw [allocation_tokens]
      exact (name_typeHalts (allocator_plain sound.1) space (@Tail.call follows _)).called tail

section Parentheses

variable {follows : Bool} {tail : List Token} {inner : Expr} {space : String}

abbrev opened (space : String) (inner : Expr) (tail : List Token) : List Token :=
  token space .mark "(" :: ((inner.tree .plain "").tokens ++ token "" .mark ")" :: tail)

theorem reading_marked_paren (sound : inner.Sound) (setting : Setting) :
    reading rules Expressions.marked setting ⟨opened space inner tail, false⟩ = .mismatch := by
  have core (setting : Setting) :
      reading rules (.rule .markedCore) setting ⟨opened space inner tail, false⟩ = .mismatch :=
    (ExprStart.paren (inner.start sound "" _)).core setting
  simp [Expressions.marked, Expressions.implicitArray, core]

theorem reading_instantiated_paren (sound : inner.Sound) (after : Tail follows tail)
    (setting : Setting) :
    reading rules Expressions.instantiated setting ⟨opened space inner tail, false⟩ =
      .mismatch := by
  have halts := inner.typeHalts sound "" (@Tail.closing follows tail)
  obtain ⟨_, ends, held⟩ := setting
  rcases halts ⟨false, ends, held⟩ with none | ⟨trees, cursor, found, stops⟩
  · simp [Expressions.instantiated, Expressions.genericName, none]
  · cases stops with
    | whole =>
        have bracket := after.quiet.leaf
        simp [Expressions.instantiated, Expressions.genericName, Expressions.severalTypes, found,
          bracket]
    | @applied _ _ broken text =>
        rcases text with rfl | rfl <;> cases broken <;>
          simp [Expressions.instantiated, Expressions.genericName, found]
    | selected same => simp [token] at same

theorem reading_parenOperand {mode : Mode} {ends : Bool} {held : List Tree}
    (braces : mode.braces = .anyName) (sound : inner.Sound)
    (whole : ∀ ends held, reading rules (Expressions.expression .plain) ⟨false, ends, held⟩
        ⟨(inner.tree .plain "").tokens ++ token "" .mark ")" :: tail, false⟩ =
      .done [inner.tree .plain ""] ⟨token "" .mark ")" :: tail, false⟩)
    (after : Tail follows tail) :
    reading rules (.rule (.operand mode)) ⟨follows, ends, held⟩
        ⟨opened space inner tail, false⟩ =
      .done [(Expr.paren inner).tree .plain space] (Cursor.after tail follows) := by
  have none (setting : Setting) := (Expr.paren inner).genericCore space after setting
  rw [paren_tokens] at none
  have conversion := reading_conversion none
  rw [reading_rule, rules, Expressions.operand, braces]
  simp [Expressions.literal, Expressions.allocation, Expressions.allocator,
    Expressions.functionLiteral, reading_marked_paren sound, conversion, Expressions.namedLiteral,
    Expressions.genericName, reading_instantiated_paren sound after, Expressions.parenthesized,
    whole, Expr.tree, mark]

end Parentheses

/-! Whole expressions. -/

/-- An expression is what a selector, a call or an index is applied to next, if any is. -/
def PrimaryReads (expr : Expr) : Prop :=
  ∀ mode : Mode, mode.braces = .anyName → ∀ space follows tail, Tail follows tail →
    (expr.isAllocator = true → Uncalled tail) → ∀ ends held,
      reading rules (.rule (.primary mode)) ⟨follows, ends, held⟩
          ⟨(expr.tree .plain space).tokens ++ tail, false⟩ =
        reading rules (.grow (primaryStep mode)) ⟨follows, follows, [expr.tree .plain space]⟩
          (Cursor.after tail follows)

section Primary

variable {mode : Mode} {follows ends : Bool} {held : List Tree} {tail : List Token} {expr : Expr}
  {space : String}

theorem primary_before (mode : Mode) (follows : Bool) :
    (Gram.grow (primaryStep mode)).terminatorBefore follows = follows := by
  simp [Gram.opens_flat (primaryStep_opens mode)]

/-- What is read as an operand has nothing applied to it yet. -/
theorem reading_primary_operand {tokens : List Token} {trees : List Tree} {rest : Cursor}
    (operand : ∀ ends held, reading rules (.rule (.operand mode)) ⟨follows, ends, held⟩
      ⟨tokens, false⟩ = .done trees rest) :
    reading rules (.rule (.primary mode)) ⟨follows, ends, held⟩ ⟨tokens, false⟩ =
      reading rules (.grow (primaryStep mode)) ⟨follows, follows, trees⟩ rest := by
  have primary : rules (.primary mode) =
      .hold (.rule (.operand mode)) (.grow (primaryStep mode)) := rfl
  rw [reading_rule, primary, reading_hold, primary_before, operand, Reply.andThen_done]

theorem reading_selected (field : String) (follows ends : Bool) (operand : Tree) :
    reading rules (.grow (primaryStep mode)) ⟨follows, ends, [operand]⟩
        ⟨token "" .mark "." :: token "" .word field :: tail, false⟩ =
      reading rules (.grow (primaryStep mode)) ⟨follows, ends, [.node .selectorExpression .plain
          [operand.withRole .operand, mark "" ".", name .fieldIdentifier .field "" field]]⟩
        (Cursor.after tail follows) := by
  rw [reading_grow, primary_before]
  simp [primaryStep, Expressions.selector, mark, name]

theorem reading_called (follows ends : Bool) (operand : Tree) {tokens : List Token} {list : Tree}
    (arguments : ∀ ends held, reading rules (.rule .arguments) ⟨follows, ends, held⟩
      ⟨token "" .mark "(" :: tokens, false⟩ = .done [list] (Cursor.after tail follows)) :
    reading rules (.grow (primaryStep mode)) ⟨follows, ends, [operand]⟩
        ⟨token "" .mark "(" :: tokens, false⟩ =
      reading rules (.grow (primaryStep mode)) ⟨follows, ends, [.node .callExpression .plain
          [operand.withRole .function, list.withRole .arguments]]⟩
        (Cursor.after tail follows) := by
  rw [reading_grow, primary_before]
  simp [primaryStep, Expressions.selector, Expressions.assertion, Expressions.call, arguments]

/-- What ends an expression lets nothing be applied to it. -/
theorem PrimaryReads.whole (reads : PrimaryReads expr) (braces : mode.braces = .anyName)
    (space : String) (after : Tail follows tail) (closed : (Cursor.after tail follows).isClosed)
    (ends : Bool) (held : List Tree) :
    reading rules (Expressions.expression mode) ⟨follows, ends, held⟩
        ⟨(expr.tree .plain space).tokens ++ tail, false⟩ =
      .done [expr.tree .plain space] (Cursor.after tail follows) := by
  refine reading_operation closed (fun setting same => ?_) _ _ rfl
  obtain ⟨_, ends, held⟩ := setting
  obtain rfl : _ = follows := same
  rw [reads mode braces space _ tail after, reading_grow, primary_before,
    reading_closed closed (primaryStep_opens mode), Reply.branch_mismatch]
  exact fun _ => after.uncalled closed

end Primary

/-! Lists of expressions. -/

/-- A form reads an expression that stands in a list, before a comma or before what comes last. -/
def ItemReads (item : Form) (follows : Bool) (last : List Token) : Prop :=
  ∀ expr : Expr, PrimaryReads expr → ∀ space tail,
    tail = last ∨ (∃ more, tail = token "" .mark "," :: more) → ∀ ends held,
      reading rules item ⟨follows, ends, held⟩ ⟨(expr.tree .plain space).tokens ++ tail, false⟩ =
        .done [expr.tree .plain space] (Cursor.after tail follows)

def Arguments.AllRead : Arguments → Prop
  | .nil => True
  | .cons first rest => PrimaryReads first ∧ rest.AllRead

section Lists

variable {follows ends : Bool} {held : List Tree} {last : List Token} {item : Form}

theorem Arguments.more_start (arguments : Arguments) (last : List Token) :
    Tree.tokensOf arguments.more ++ last = last
      ∨ ∃ more, Tree.tokensOf arguments.more ++ last = token "" .mark "," :: more := by
  cases arguments with
  | nil => exact .inl rfl
  | cons first rest => exact .inr ⟨_, rfl⟩

theorem reading_moreItems (reads : ItemReads item follows last)
    (flat : item.startsWithTerminator = false) (needed : item.nullable = false)
    (stops : ∀ kind follows', Cursor.leaf kind (.mark ",") follows' (Cursor.after last follows) =
      .mismatch) (arguments : Arguments) (all : arguments.AllRead) :
    reading rules (.many (.seq (.leaf .mark (.mark ",")) item)) ⟨follows, ends, held⟩
        (Cursor.after (Tree.tokensOf arguments.more ++ last) follows) =
      .done arguments.more (Cursor.after last follows) := by
  match arguments, all with
  | .nil, _ =>
      rw [reading_many]
      simp [Arguments.more, stops]
  | .cons first rest, all =>
      have tokens : Tree.tokensOf (Arguments.cons first rest).more ++ last =
          token "" .mark "," :: ((first.tree .plain " ").tokens
            ++ (Tree.tokensOf rest.more ++ last)) := by
        simp [Arguments.more]
      have here := reads first all.1 " " _ (rest.more_start last)
      have later := reading_moreItems reads flat needed stops rest all.2
      rw [reading_many, tokens]
      simp [flat, needed, here, later, Arguments.more, mark]

theorem argument_reads (tail : List Token) :
    ItemReads Expressions.argument false (token "" .mark ")" :: tail) := by
  intro expr primary space tail' listed ends held
  obtain ⟨text, more, rfl, closer⟩ : ∃ text more, tail' = token "" .mark text :: more
      ∧ (text = "," ∨ text = ")") := by
    rcases listed with rfl | ⟨more, rfl⟩
    · exact ⟨_, _, rfl, .inr rfl⟩
    · exact ⟨_, _, rfl, .inl rfl⟩
  have closed : (Cursor.after (token "" .mark text :: more) false).isClosed :=
    .inr ⟨_, more, rfl, rfl, by rcases closer with rfl | rfl <;> simp [closers]⟩
  have whole (ends : Bool) (held : List Tree) :
      reading rules (Expressions.expression .plain) ⟨false, ends, held⟩ _ = _ :=
    primary.whole rfl space (Tail.close closer) closed ends held
  rw [Expressions.argument]
  rcases closer with rfl | rfl <;> simp [whole]

theorem reading_argumentList (arguments : Arguments) (all : arguments.AllRead)
    (tail : List Token) :
    reading rules (.rule .arguments) ⟨follows, ends, held⟩
        ⟨token "" .mark "(" :: arguments.closing tail, false⟩ =
      .done [.node .argumentList .plain (mark "" "(" :: (arguments.trees "" ++ [mark "" ")"]))]
        (Cursor.after tail follows) := by
  have stops (kind : Kind) (follows' : Bool) : Cursor.leaf kind (.mark ",") follows'
      (Cursor.after (token "" .mark ")" :: tail) false) = .mismatch := by simp
  rw [reading_rule, rules, Expressions.arguments]
  cases arguments with
  | nil =>
      have none (setting : Setting) : reading rules Expressions.argument setting
          ⟨token "" .mark ")" :: tail, false⟩ = .mismatch :=
        reading_closed (.inr ⟨_, _, rfl, rfl, by simp [closers]⟩) (by decide +kernel) setting
      simp [Arguments.closing, Arguments.trees, none, mark]
  | cons first rest =>
      have tokens : (Arguments.cons first rest).closing tail =
          (first.tree .plain "").tokens
            ++ (Tree.tokensOf rest.more ++ token "" .mark ")" :: tail) := by
        simp [Arguments.closing, Arguments.trees]
      have here := argument_reads tail first all.1 "" _ (rest.more_start _)
      have later (ends : Bool) (held : List Tree) := @reading_moreItems false ends held _ _
        (argument_reads tail) rfl rfl stops rest all.2
      simp only [after_flat] at here later
      rw [tokens]
      simp [here, later, Arguments.trees, mark]

/-- A form reads an expression up to the end of a line or of a list. -/
theorem expression_reads (line : Tail follows last) (closed : (Cursor.after last follows).isClosed) :
    ItemReads (Expressions.expression .plain) follows last := by
  intro expr primary space tail listed ends held
  rcases listed with rfl | ⟨more, rfl⟩
  · exact primary.whole rfl space line closed ends held
  · have comma : (Cursor.after (token "" .mark "," :: more) follows).isClosed :=
      .inr ⟨_, more, rfl, rfl, by simp [closers]⟩
    exact primary.whole rfl space (.close (.inl rfl)) comma ends held

/-- What `new` and `make` are given: the name of a type, and then expressions. -/
theorem reading_allocationCall {word type : String} (allocator : word ∈ allocators)
    (plain : type ∉ typeWords) (space : String) (arguments : Arguments) (all : arguments.AllRead)
    (tail : List Token) :
    reading rules Expressions.allocation ⟨follows, ends, held⟩
        ⟨token space .word word :: token "" .mark "(" :: token "" .word type
          :: (Tree.tokensOf arguments.more ++ token "" .mark ")" :: tail), false⟩ =
      .done [(Expr.allocation word type arguments).tree .plain space] (Cursor.after tail follows) := by
  have among : word ∈ ["new", "make"] := allocator
  have stops (kind : Kind) (follows' : Bool) : Cursor.leaf kind (.mark ",") follows'
      (Cursor.after (token "" .mark ")" :: tail) false) = .mismatch := by simp
  have closed : (Cursor.after (token "" .mark ")" :: tail) false).isClosed :=
    .inr ⟨_, tail, rfl, rfl, by simp [closers]⟩
  have later (ends : Bool) (held : List Tree) := @reading_moreItems false ends held _ _
    (expression_reads Tail.closing closed) rfl rfl stops arguments all
  have ended : EndsName false (Tree.tokensOf arguments.more ++ token "" .mark ")" :: tail) := by
    intro next more first
    have other : next = token "" .mark ")" ∨ next = token "" .mark "," := by
      rcases arguments.more_start (token "" .mark ")" :: tail) with same | ⟨rest, same⟩
      · rw [same] at first
        exact .inl (List.cons.inj first).1.symm
      · rw [same] at first
        exact .inr (List.cons.inj first).1.symm
    rw [first]
    rcases other with rfl | rfl <;>
      exact .inr ⟨by simp, reading_typeArguments_other (by simp)⟩
  have typed (ends : Bool) (held : List Tree) :
      reading rules (.rule .type) ⟨false, ends, held⟩ ⟨token "" .word type
        :: (Tree.tokensOf arguments.more ++ token "" .mark ")" :: tail), false⟩ =
        .done [name .typeIdentifier .plain "" type]
          ⟨Tree.tokensOf arguments.more ++ token "" .mark ")" :: tail, false⟩ := by
    rw [reading_rule, rules, Types.type, reading_alt, reading_name plain "" ended, after_flat,
      Reply.orElse_done]
  simp only [after_flat] at later
  simp [Expressions.allocation, Expressions.allocator, Expressions.typeFirstArguments, among, typed,
    later, Expr.tree, name, mark]

/-- What is called without arguments may be `new` or `make`. -/
theorem reading_emptyAllocation {word : String} (allocator : word ∈ allocators) (space : String)
    (tail : List Token) :
    reading rules Expressions.allocation ⟨follows, ends, held⟩
        ⟨token space .word word :: token "" .mark "(" :: token "" .mark ")" :: tail, false⟩ =
      .done [(Expr.call (.name word) .nil).tree .plain space] (Cursor.after tail follows) := by
  have among : word ∈ ["new", "make"] := allocator
  have none (setting : Setting) : reading rules (.rule .type) setting
      ⟨token "" .mark ")" :: tail, false⟩ = .mismatch :=
    reading_closed (.inr ⟨_, _, rfl, rfl, by simp [closers]⟩) (Gram.opens_rule _) setting
  have kind : operandKind word = .identifier := by
    simp only [List.mem_cons, List.not_mem_nil, or_false] at among
    rcases among with rfl | rfl <;> rfl
  simp [Expressions.allocation, Expressions.allocator, Expressions.typeFirstArguments, among, none,
    Expr.tree, Arguments.trees, kind, name, mark]

theorem reading_operand_allocation {mode : Mode} {word : String} (allocator : word ∈ allocators)
    {space : String} {tokens : List Token} {trees : List Tree} {rest : Cursor}
    (read : ∀ ends held, reading rules Expressions.allocation ⟨follows, ends, held⟩
      ⟨token space .word word :: tokens, false⟩ = .done trees rest) :
    reading rules (.rule (.operand mode)) ⟨follows, ends, held⟩
        ⟨token space .word word :: tokens, false⟩ = .done trees rest := by
  have other : word ≠ "nil" ∧ word ≠ "true" ∧ word ≠ "false" ∧ word ≠ "iota" := by
    simp only [allocators, List.mem_cons, List.not_mem_nil, or_false] at allocator
    rcases allocator with rfl | rfl <;> simp
  rw [reading_rule, rules, Expressions.operand]
  simp [Expressions.literal, other, read]

end Lists

mutual

/-- An expression is read back, up to what is applied to it next. -/
theorem Expr.reads (expr : Expr) (sound : expr.Sound) : PrimaryReads expr := by
  intro mode braces space follows tail after uncalled ends held
  match expr, sound, uncalled with
  | .name text, sound, uncalled =>
      refine reading_primary_operand fun ends held => ?_
      refine reading_operandName braces sound.2 space after fun allocator => uncalled ?_
      simpa [Expr.isAllocator] using allocator
  | .int text, _, _ =>
      refine reading_primary_operand fun ends held => ?_
      rw [reading_rule, rules, Expressions.operand]
      simp [Expr.tree, Expressions.literal]
  | .selector operand field, sound, _ =>
      have next : Tail follows (token "" .mark "." :: token "" .word field :: tail) :=
        .select after.quiet
      have flat : Cursor.after (token "" .mark "." :: token "" .word field :: tail) follows =
          ⟨token "" .mark "." :: token "" .word field :: tail, false⟩ := by simp
      have uncalled (_ : operand.isAllocator = true) :
          Uncalled (token "" .mark "." :: token "" .word field :: tail) := by
        rintro next more same
        obtain ⟨rfl, -⟩ := List.cons.inj same
        exact .inr (by simp)
      rw [selector_tokens, operand.reads sound.1 mode braces space follows _ next uncalled, flat,
        reading_selected, Expr.withRole_tree]
      rfl
  | .paren inner, sound, _ =>
      have closed : (Cursor.after (token "" .mark ")" :: tail) false).isClosed :=
        .inr ⟨_, tail, rfl, rfl, by simp [closers]⟩
      have whole (ends : Bool) (held : List Tree) :
          reading rules (Expressions.expression .plain) ⟨false, ends, held⟩ _ = _ :=
        (inner.reads sound).whole rfl "" Tail.closing closed ends held
      refine reading_primary_operand fun ends held => ?_
      rw [paren_tokens]
      exact reading_parenOperand braces sound whole after
  | .call function arguments, sound, _ =>
      rw [call_tokens]
      by_cases allocator : function.isAllocator = true
      -- `new` and `make` are read with the arguments that they do not have
      · obtain rfl := sound.2.2 allocator
        cases function with
        | name word =>
            have among : word ∈ allocators := by simpa [Expr.isAllocator] using allocator
            exact reading_primary_operand fun ends held =>
              reading_operand_allocation among fun ends held =>
                reading_emptyAllocation among space tail
        | _ => simp [Expr.isAllocator] at allocator
      · have flat : Cursor.after (token "" .mark "(" :: arguments.closing tail) follows =
            ⟨token "" .mark "(" :: arguments.closing tail, false⟩ := by simp
        rw [function.reads sound.1 mode braces space follows _ .call (absurd · allocator), flat,
          reading_called _ _ _ fun ends held =>
            reading_argumentList arguments (arguments.reads sound.2.1) tail,
          Expr.withRole_tree]
        rfl
  | .allocation word type arguments, sound, _ =>
      refine reading_primary_operand fun ends held => ?_
      rw [allocation_tokens]
      exact reading_operand_allocation sound.1 fun ends held =>
        reading_allocationCall sound.1 sound.2.2.1 space arguments
          (arguments.reads sound.2.2.2) tail

theorem Arguments.reads (arguments : Arguments) (sound : arguments.Sound) : arguments.AllRead := by
  match arguments, sound with
  | .nil, _ => trivial
  | .cons first rest, sound => exact ⟨first.reads sound.1, rest.reads sound.2⟩

end

end InterfaceMocks.Preservation
