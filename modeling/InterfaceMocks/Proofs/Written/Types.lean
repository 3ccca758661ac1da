import InterfaceMocks.Proofs.Grammar.Operations
import InterfaceMocks.Proofs.Written.Trees

/-!
Types, parameters and signatures are read back from their tokens, whatever the white space between
them. What comes after must not go on with the construct: after a type stands a comma, a closing
parenthesis or the brace of a body, or its line ends.
-/

namespace InterfaceMocks.Written

open InterfaceMocks.Syntax
open InterfaceMocks.Grammar

/-- Whether a type can be read back: no name in it starts a type of another form, and the length of
an array is a literal. -/
def TypeReadable : TypeExpr → Prop
  | .named text => text ∉ typeWords
  | .qualified package _ => package ∉ typeWords
  | .pointer inner => TypeReadable inner
  | .array none element => TypeReadable element
  | .array (some text) element =>
      classOf text ≠ .word ∧ classOf text ≠ .mark ∧ TypeReadable element
  | .unrecognised => True

/-- What may come after a type: the end of its line, or a mark that goes on without it. -/
def TypeEnds (follows : Bool) (rest : List Token) : Prop :=
  ∀ next more, rest = next :: more →
    (follows = true ∧ next.startsLine = true) ∨
      (next.lexeme = .mark ∧ next.text ∈ [",", ")", "\x7b"])

def EndsName (follows : Bool) (rest : List Token) : Prop :=
  ∀ next more, rest = next :: more →
    (follows = true ∧ next.startsLine = true) ∨
      (¬ (next.lexeme = .mark ∧ next.text = ".") ∧
        ∀ setting, reading rules (.rule .typeArguments) setting ⟨rest, false⟩ = .mismatch)

section Types

variable {follows ends : Bool} {held : List Tree} {rest : List Token}

@[simp] theorem leaf_broken (kind : Kind) (shape : Shape) :
    Cursor.leaf kind shape follows ⟨rest, true⟩ = .mismatch :=
  leaf_ended (.inr rfl) kind shape follows

theorem reading_length {lexeme : Lexeme} (word : lexeme ≠ .word) (mark : lexeme ≠ .mark)
    (text space : String) :
    reading rules (.rule (.operation .disjunction .plain)) ⟨false, ends, held⟩
        ⟨token "" lexeme text :: token space .mark "]" :: rest, false⟩ =
      .done [.leaf (literalKind lexeme) .plain (token "" lexeme text)]
        ⟨token space .mark "]" :: rest, false⟩ := by
  have closed : (⟨token space .mark "]" :: rest, false⟩ : Cursor).isClosed :=
    .inr ⟨_, rest, rfl, rfl, by simp [closers]⟩
  refine reading_operation closed (reading_primary closed ?_) _ _ rfl
  intro setting flat
  rw [reading_rule, rules, Expressions.operand]
  cases lexeme <;> simp_all [Expressions.literal, literalKind]

theorem reading_typeArguments_other {next : Token} {more : List Token} {broken : Bool}
    (other : ¬ (next.lexeme = .mark ∧ next.text = "[")) (setting : Setting) :
    reading rules (.rule .typeArguments) setting ⟨next :: more, broken⟩ = .mismatch := by
  cases broken <;> simp [reading_rule, rules, Types.typeArguments, other]

/-- A name that ends is neither qualified nor applied to arguments. -/
theorem TypeEnds.endsName (ended : TypeEnds follows rest) : EndsName follows rest := by
  intro next more same
  rcases ended next more same with line | ⟨isMark, listed⟩
  · exact .inl line
  · subst same
    refine .inr ⟨?_, reading_typeArguments_other ?_⟩ <;> rintro ⟨-, text⟩ <;>
      simp [text] at listed

theorem EndsName.cases (ended : EndsName follows rest) :
    rest = [] ∨ ∃ next more, rest = next :: more ∧
      ((follows = true ∧ next.startsLine = true) ∨
        ((follows = true → next.startsLine = false)
          ∧ ¬ (next.lexeme = .mark ∧ next.text = ".")
          ∧ ∀ setting,
            reading rules (.rule .typeArguments) setting ⟨next :: more, false⟩ = .mismatch)) := by
  rcases rest with _ | ⟨next, more⟩
  · exact .inl rfl
  · refine .inr ⟨next, more, rfl, ?_⟩
    by_cases line : follows = true ∧ next.startsLine = true
    · exact .inl line
    · refine .inr ⟨fun follows => by simpa [follows] using line, ?_⟩
      exact (ended next more rfl).resolve_left line

theorem reading_name {text : String} (plain : text ∉ typeWords) (space : String)
    (ended : EndsName follows rest) :
    reading rules (.rule .simpleType) ⟨follows, ends, held⟩
        ⟨token space .word text :: rest, false⟩ =
      .done [name .typeIdentifier .plain space text] (Cursor.after rest follows) := by
  simp only [typeWords, List.mem_cons, List.not_mem_nil, or_false, not_or] at plain
  rw [reading_rule, rules, Types.simpleType]
  rcases ended.cases with rfl | ⟨next, more, rfl, ⟨rfl, line⟩ | ⟨line, dot, arguments⟩⟩
  · simp [plain, name, typeWords, reading_rule, rules, Types.typeArguments]
  · simp [plain, name, typeWords, line]
  · cases follows with
    | false => simp [plain, name, typeWords, dot, arguments]
    | true => simp [plain, name, typeWords, dot, arguments, line]

theorem reading_qualified {package : String} (plain : package ∉ typeWords) (space text : String)
    (ended : EndsName follows rest) :
    reading rules (.rule .simpleType) ⟨follows, ends, held⟩
        ⟨token space .word package :: token "" .mark "." :: token "" .word text :: rest, false⟩ =
      .done [type .plain space (.qualified package text)] (Cursor.after rest follows) := by
  simp only [typeWords, List.mem_cons, List.not_mem_nil, or_false, not_or] at plain
  rw [reading_rule, rules, Types.simpleType]
  rcases ended.cases with rfl | ⟨next, more, rfl, ⟨rfl, line⟩ | ⟨line, dot, arguments⟩⟩
  · simp [plain, type, name, mark, typeWords, reading_rule, rules, Types.typeArguments]
  · simp [plain, type, name, mark, typeWords, line]
  · cases follows with
    | false => simp [plain, type, name, mark, typeWords, arguments]
    | true => simp [plain, type, name, mark, typeWords, arguments, line]

@[simp] theorem type_withRole (role other : Role) (space : String) (expr : TypeExpr) :
    (type other space expr).withRole role = type role space expr := by
  cases expr with
  | array length element => cases length <;> rfl
  | _ => rfl

theorem tokens_withRole (role : Role) (tree : Tree) : (tree.withRole role).tokens = tree.tokens := by
  cases tree <;> rfl

/-- What stands where a type may stand in parentheses too. -/
theorem reading_type_of_simple {expr : TypeExpr} {space : String} {role : Role}
    (simple : ∀ ends held, reading rules (.rule .simpleType) ⟨follows, ends, held⟩
        ⟨(type .plain space expr).tokens ++ rest, false⟩ =
      .done [type .plain space expr] (Cursor.after rest follows)) :
    reading rules (.rule .type) ⟨follows, ends, held⟩
        ⟨(type role space expr).tokens ++ rest, false⟩ =
      .done [type .plain space expr] (Cursor.after rest follows) := by
  rw [reading_rule, rules, Types.type, reading_alt, ← type_withRole role .plain, tokens_withRole,
    simple, Reply.orElse_done]

/-- A type is read back where it ends. -/
theorem reading_simpleType {expr : TypeExpr} (readable : TypeReadable expr) (space : String)
    (ended : TypeEnds follows rest) :
    reading rules (.rule .simpleType) ⟨follows, ends, held⟩
        ⟨(type .plain space expr).tokens ++ rest, false⟩ =
      .done [type .plain space expr] (Cursor.after rest follows) := by
  induction expr generalizing space ends held with
  | named text => exact reading_name readable space ended.endsName
  | qualified package text => exact reading_qualified readable space text ended.endsName
  | unrecognised => exact reading_name (by decide) space ended.endsName
  | pointer inner ih =>
      have inside (role : Role) (ends : Bool) (held : List Tree) :
          reading rules (.rule .type) ⟨follows, ends, held⟩
              ⟨(type role "" inner).tokens ++ rest, false⟩ =
            .done [type .plain "" inner] (Cursor.after rest follows) :=
        reading_type_of_simple fun _ _ => ih readable ""
      rw [reading_rule, rules, Types.simpleType]
      simp [type, mark, inside]
  | array length element ih =>
      have inside (readable : TypeReadable element) (role : Role) (ends : Bool)
          (held : List Tree) :
          reading rules (.rule .type) ⟨follows, ends, held⟩
              ⟨(type role "" element).tokens ++ rest, false⟩ =
            .done [type .plain "" element] (Cursor.after rest follows) :=
        reading_type_of_simple fun _ _ => ih readable ""
      rw [reading_rule, rules, Types.simpleType]
      cases length with
      | none => simp [type, mark, inside readable]
      | some text =>
          simp [type, mark, inside readable.2.2, Written.length, readable.2.1,
            reading_length readable.1 readable.2.1 text]

theorem reading_type {expr : TypeExpr} (readable : TypeReadable expr) (role : Role)
    (space : String) (ended : TypeEnds follows rest) :
    reading rules (.rule .type) ⟨follows, ends, held⟩
        ⟨(type role space expr).tokens ++ rest, false⟩ =
      .done [type .plain space expr] (Cursor.after rest follows) :=
  reading_type_of_simple fun _ _ => reading_simpleType readable space ended

end Types

end InterfaceMocks.Written
