import InterfaceMocks.Proofs.Preservation.Phrases
import InterfaceMocks.Proofs.Written.Spelling

/-!
Types are read back where they are laid out. What comes after a type shows where it ends, and a word
alone among parameters is a type unless what comes next can be read as the type it shares.
-/

namespace InterfaceMocks.Preservation

open InterfaceMocks.Syntax InterfaceMocks.Grammar
open InterfaceMocks.Written

/-! Sound phrases. -/

/-- A literal that is cut off whatever comes after it. -/
structure Quote.Sound (quote : Quote) : Prop where
  stands : ∀ space next, Blank space →
    Stands (token space (if quote.raw then .raw else .quoted) quote.text) next

structure Label.Sound (label : Label) : Prop where
  names : ∀ text ∈ label.names, IsName text
  first : ∀ text ∈ label.names.head?, text ∉ typeWords
  single : label.variadic = true → label.names.length ≤ 1

def isBareName (label : Label) (type : Ty) : Bool :=
  match label, type with
  | ⟨false, []⟩, .name _ => true
  | _, _ => false

/-- Whether a word before these parameters is read as a name that shares the type of the first. -/
def Parameters.sharesType : Parameters → Bool
  | .cons ⟨false, _ :: _⟩ _ _ => true
  | .cons ⟨false, []⟩ (.function (.cons ⟨false, []⟩ _ .nil) .none) _ => true
  | _ => false

/-- Whether results need their parentheses: there are several, or the one has a name or dots. -/
def Parameters.needsList : Parameters → Bool
  | .nil | .cons ⟨false, []⟩ _ .nil => false
  | _ => true

/-- Whether a type can be embedded: any word is a name there. -/
def Ty.Embeds : Ty → Prop
  | .name text => IsName text
  | .qualified package text => IsName package ∧ IsName text
  | _ => False

mutual

def Ty.Sound : Ty → Prop
  | .name text => IsName text ∧ text ∉ typeWords
  | .qualified package text => IsName package ∧ package ∉ typeWords ∧ IsName text
  | .pointer target => target.Sound
  | .slice element => element.Sound
  | .array length element => Number.isInt length = true ∧ element.Sound
  | .function parameters result => parameters.Sound ∧ result.Sound
  | .struct fields => fields.Sound

def Parameters.Sound : Parameters → Prop
  | .nil => True
  | .cons label type rest =>
      label.Sound ∧ type.Sound ∧ (isBareName label type = true → rest.sharesType = false)
        ∧ rest.Sound

def Result.Sound : Result → Prop
  | .none => True
  | .lone type => type.Sound
  | .list parameters => parameters.Sound ∧ parameters.needsList = true

def Fields.Sound : Fields → Prop
  | .nil => True
  | .cons [] type tag rest => type.Embeds ∧ (∀ quote ∈ tag, quote.Sound) ∧ rest.Sound
  | .cons (first :: more) type tag rest =>
      (∀ text ∈ first :: more, IsName text) ∧ type.Sound ∧ (∀ quote ∈ tag, quote.Sound)
        ∧ rest.Sound

end

/-! What comes after a type. -/

/-- Nothing, the next line, or what never goes on with a type. -/
def Ended (follows : Bool) (rest : List Token) : Prop :=
  ∀ next more, rest = next :: more →
    (follows = true ∧ next.startsLine = true) ∨
      (next.startsLine = false ∧
        ((next.lexeme = .mark ∧ next.text ∈ [",", ")", "\x7b"]) ∨ next.lexeme = .quoted
          ∨ next.lexeme = .raw))

section Names

variable {follows ends : Bool} {held : List Tree} {rest : List Token}

theorem Ended.endsName (ended : Ended follows rest) : EndsName follows rest := by
  intro next more same
  rcases ended next more same with line | ⟨-, listed⟩
  · exact .inl line
  · subst same
    refine .inr ⟨?_, reading_typeArguments_other ?_⟩ <;> rintro ⟨isMark, text⟩ <;>
      rcases listed with ⟨-, among⟩ | other | other <;> simp_all

end Names

/-! The tokens of a type. -/

theorem Ty.withRole_tree (type : Ty) (role other : Role) (space : String) (indent : Nat) :
    (type.tree other space indent).withRole role = type.tree role space indent := by
  cases type <;> simp [Ty.tree, Written.name, structTree]

theorem Ty.tokens_role (type : Ty) (role other : Role) (space : String) (indent : Nat) :
    (type.tree role space indent).tokens = (type.tree other space indent).tokens := by
  rw [← type.withRole_tree role other, tokens_withRole]

/-- How a type starts: with a word, a star, or a bracket that opens no arguments. -/
inductive TypeStart (space : String) : List Token → Prop where
  | word {text rest} : TypeStart space (token space .word text :: rest)
  | star {rest} : TypeStart space (token space .mark "*" :: rest)
  | slice {rest} : TypeStart space (token space .mark "[" :: token "" .mark "]" :: rest)
  | array {length rest} : TypeStart space (token space .mark "[" :: token "" .int length :: rest)

theorem Ty.start (type : Ty) (role : Role) (space : String) (indent : Nat) (rest : List Token) :
    TypeStart space ((type.tree role space indent).tokens ++ rest) := by
  cases type with
  | name | qualified | function | struct =>
      simp only [Ty.tree, structTree, Tree.tokens, Tree.tokensOf, tokens_name, tokens_keyword,
        List.cons_append, List.nil_append]
      exact .word
  | pointer target =>
      simp only [Ty.tree, Tree.tokens, Tree.tokensOf, tokens_mark, List.cons_append]
      exact .star
  | slice element =>
      simp only [Ty.tree, Tree.tokens, Tree.tokensOf, tokens_mark, List.cons_append, List.nil_append]
      exact .slice
  | array length element =>
      simp only [Ty.tree, Tree.tokens, Tree.tokensOf, tokens_mark, List.cons_append, List.nil_append]
      exact .array

section Starts

variable {ends : Bool} {held : List Tree} {space : String} {tokens : List Token}

/-- No type starts with a number. -/
theorem reading_type_int {text : String} {more : List Token} (setting : Setting) :
    reading rules (.rule .type) setting ⟨token "" .int text :: more, false⟩ = .mismatch := by
  simp [reading_rule, rules, Types.type, Types.simpleType]

/-- A type that follows a word is not taken for its arguments. -/
theorem TypeStart.endsName (start : TypeStart space tokens) (follows : Bool) :
    EndsName follows tokens := by
  rintro next more rfl
  refine .inr ⟨by cases start <;> simp, fun setting => ?_⟩
  cases start with
  | word => exact reading_typeArguments_other (by simp) setting
  | star => exact reading_typeArguments_other (by simp) setting
  | slice =>
      have closed {rest : List Token} :
          (⟨token "" .mark "]" :: rest, false⟩ : Cursor).isClosed :=
        .inr ⟨_, _, rfl, rfl, by simp [closers]⟩
      have none (rest : List Token) (setting : Setting) : reading rules (.rule .typeElement) setting
          ⟨token "" .mark "]" :: rest, false⟩ = .mismatch :=
        reading_closed closed (Gram.opens_rule _) setting
      simp [reading_rule, rules, Types.typeArguments, none]
  | array =>
      have none (text : String) (rest : List Token) (setting : Setting) :
          reading rules (.rule .typeElement) setting ⟨token "" .int text :: rest, false⟩ =
            .mismatch := by
        rw [reading_rule, rules, Types.typeElement]
        simp [reading_type_int]
      rw [reading_rule, rules, Types.typeArguments]
      simp [none]

theorem TypeStart.not_comma (start : TypeStart space tokens) :
    ∀ next more, tokens = next :: more → ¬ (next.lexeme = .mark ∧ next.text = ",") := by
  rintro next more rfl
  cases start <;> simp

theorem TypeStart.first (start : TypeStart space tokens) :
    ∃ next more, tokens = next :: more ∧ ¬ (next.lexeme = .mark ∧ next.text = ",")
      ∧ ¬ (next.lexeme = .mark ∧ next.text = ")") := by
  cases start <;> exact ⟨_, _, rfl, by simp, by simp⟩

theorem TypeStart.not_list (start : TypeStart space tokens) {follows broken : Bool} :
    reading rules (.rule .parameters) ⟨follows, ends, held⟩ ⟨tokens, broken⟩ = .mismatch := by
  cases start <;> exact reading_parameters_other (by simp)

end Starts

/-! Types are read back, each form from what it is made of. -/

def TypeReads (type : Ty) : Prop :=
  ∀ space indent follows rest, Ended follows rest → ∀ ends held,
    reading rules (.rule .simpleType) ⟨follows, ends, held⟩
        ⟨(type.tree .plain space indent).tokens ++ rest, false⟩ =
      .done [type.tree .plain space indent] (Cursor.after rest follows)

section Types

variable {follows ends : Bool} {held : List Tree} {rest : List Token}

theorem TypeReads.whole {type : Ty} (reads : TypeReads type) (role : Role) (space : String)
    (indent : Nat) (ended : Ended follows rest) :
    reading rules (.rule .type) ⟨follows, ends, held⟩
        ⟨(type.tree role space indent).tokens ++ rest, false⟩ =
      .done [type.tree .plain space indent] (Cursor.after rest follows) := by
  rw [reading_rule, rules, Types.type, reading_alt, type.tokens_role role .plain,
    reads space indent follows rest ended, Reply.orElse_done]

theorem pointer_reads {target : Ty} (reads : TypeReads target) : TypeReads (.pointer target) := by
  intro space indent follows rest ended ends held
  rw [reading_rule, rules, Types.simpleType]
  simp [Ty.tree, mark, reads.whole .plain "" indent ended]

theorem slice_reads {element : Ty} (reads : TypeReads element) : TypeReads (.slice element) := by
  intro space indent follows rest ended ends held
  rw [reading_rule, rules, Types.simpleType]
  simp [Ty.tree, mark, reads.whole .element "" indent ended, Ty.withRole_tree]

theorem array_reads {length : String} {element : Ty} (reads : TypeReads element) :
    TypeReads (.array length element) := by
  intro space indent follows rest ended ends held
  rw [reading_rule, rules, Types.simpleType]
  have sized (ends : Bool) (held : List Tree) (rest : List Token) :
      reading rules (.rule (.operation .disjunction .plain)) ⟨false, ends, held⟩
          ⟨token "" .int length :: token "" .mark "]" :: rest, false⟩ =
        .done [.leaf .intLiteral .plain (token "" .int length)] ⟨token "" .mark "]" :: rest, false⟩ :=
    reading_length (by simp) (by simp) length ""
  simp [Ty.tree, mark, sized, reads.whole .element "" indent ended, Ty.withRole_tree]

/-! Lists of parameters. -/

/-- What stands after a parameter: those after it, and the parenthesis that closes their list. -/
def Parameters.closing (indent : Nat) (parameters : Parameters) (rest : List Token) : List Token :=
  Tree.tokensOf (parameters.more indent) ++ token "" .mark ")" :: rest

theorem Parameters.closing_nil (indent : Nat) (rest : List Token) :
    Parameters.nil.closing indent rest = token "" .mark ")" :: rest := rfl

theorem Parameters.closing_cons (indent : Nat) (label : Label) (type : Ty)
    (parameters : Parameters) (rest : List Token) :
    (Parameters.cons label type parameters).closing indent rest = token "" .mark "," ::
      ((label.tree " " fun space => type.tree .type space indent).tokens
        ++ parameters.closing indent rest) := by
  simp [Parameters.closing, Parameters.more]

theorem Parameters.closing_start (indent : Nat) (parameters : Parameters) (rest : List Token) :
    ∃ text more, parameters.closing indent rest = token "" .mark text :: more
      ∧ (text = "," ∨ text = ")") := by
  cases parameters with
  | nil => exact ⟨_, _, closing_nil .., .inr rfl⟩
  | cons label type parameters => exact ⟨_, _, closing_cons .., .inl rfl⟩

theorem Parameters.closing_ended (indent : Nat) (parameters : Parameters) (rest : List Token) :
    Ended false (parameters.closing indent rest) := by
  obtain ⟨text, more, same, listed⟩ := parameters.closing_start indent rest
  intro next more' first
  rw [same] at first
  obtain ⟨rfl, rfl⟩ := List.cons.inj first
  exact .inr ⟨by simp, .inl ⟨rfl, by rcases listed with rfl | rfl <;> simp⟩⟩

theorem Parameters.closing_closed (indent : Nat) (parameters : Parameters) (rest : List Token) :
    (⟨parameters.closing indent rest, false⟩ : Cursor).isClosed := by
  obtain ⟨text, more, same, listed⟩ := parameters.closing_start indent rest
  exact .inr ⟨_, more, same, rfl, by rcases listed with rfl | rfl <;> simp [closers]⟩

/-- No type with arguments starts with a number or a closing bracket. -/
theorem reading_wrapped_other {lexeme : Lexeme} {text : String} {more : List Token}
    (other : (lexeme = .mark ∧ text = "]") ∨ lexeme = .int) (setting : Setting) :
    reading rules (Types.wrapped (Types.genericName typeWords)) setting
      ⟨token "" lexeme text :: more, false⟩ = .mismatch := by
  have stars (setting : Setting) :
      reading rules (.many (.alt (.leaf .mark (.mark "*")) (.leaf .mark (.mark "(")))) setting
          ⟨token "" lexeme text :: more, false⟩ =
        .done [] ⟨token "" lexeme text :: more, false⟩ := by
    rw [reading_many]
    rcases other with ⟨rfl, rfl⟩ | rfl <;> simp
  rcases other with ⟨rfl, rfl⟩ | rfl <;> simp [Types.wrapped, Types.genericName, stars]

/-- Names and a type that they share do not start a map with a generic key. -/
theorem reading_sharedKey {first : String} (plain : first ∉ typeWords) (space : String)
    (names : List String) {tokens : List Token} (start : TypeStart " " tokens) :
    reading rules Types.beforeGenericKey ⟨false, ends, held⟩
        ⟨token space .word first
          :: (names.flatMap (fun text => [token "" .mark ",", token " " .word text]) ++ tokens),
          false⟩ = .mismatch := by
  rcases names with _ | ⟨second, _ | ⟨third, names⟩⟩
  · cases start <;> simp [Types.beforeGenericKey, plain]
  · by_cases map : second = "map"
    · cases start <;> simp [Types.beforeGenericKey, plain, map, reading_wrapped_other]
    · cases start <;> simp [Types.beforeGenericKey, plain, map]
  · by_cases map : second = "map"
    · simp [Types.beforeGenericKey, plain, map]
    · by_cases map' : third = "map"
      · cases names with
        | nil =>
            cases start <;> simp [Types.beforeGenericKey, plain, map, map', reading_wrapped_other]
        | cons fourth names => simp [Types.beforeGenericKey, plain, map, map']
      · simp [Types.beforeGenericKey, plain, map, map']

section Labels

variable {type : Ty} (indent : Nat) (parameters : Parameters)

abbrev typed (type : Ty) (indent : Nat) (space : String) : Tree := type.tree .type space indent

theorem tokens_shared (space first : String) (more : List String) (rest : List Token) :
    (Label.tree ⟨false, first :: more⟩ space (typed type indent)).tokens ++ rest =
      token space .word first
        :: (more.flatMap (fun text => [token "" .mark ",", token " " .word text])
          ++ ((typed type indent " ").tokens ++ rest)) := by
  simp [Label.tree, nameTrees, tokensOf_append, tokensOf_names]

theorem shared_reads (reads : TypeReads type) {first : String} (plain : first ∉ typeWords)
    (more : List String) (space : String) :
    reading rules Types.parameter ⟨false, ends, held⟩
        ⟨(Label.tree ⟨false, first :: more⟩ space (typed type indent)).tokens
          ++ parameters.closing indent rest, false⟩ =
      .done [Label.tree ⟨false, first :: more⟩ space (typed type indent)]
        ⟨parameters.closing indent rest, false⟩ := by
  have start := type.start .type " " indent (parameters.closing indent rest)
  have ended := parameters.closing_ended indent rest
  obtain ⟨text, later, same, listed⟩ := parameters.closing_start indent rest
  rw [tokens_shared]
  rw [same] at start ended ⊢
  rcases listed with rfl | rfl <;>
    simp [Types.parameter, Types.namedParameter, reading_sharedKey plain space more start,
      reading_moreNames more start.not_comma, reads.whole .type " " indent ended, plain, Label.tree,
      nameTrees, name, mark, Ty.withRole_tree]

theorem variadic_reads (reads : TypeReads type) {names : List String} (single : names.length ≤ 1)
    (plain : ∀ text ∈ names.head?, text ∉ typeWords) (space : String) :
    reading rules Types.parameter ⟨false, ends, held⟩
        ⟨(Label.tree ⟨true, names⟩ space (typed type indent)).tokens
          ++ parameters.closing indent rest, false⟩ =
      .done [Label.tree ⟨true, names⟩ space (typed type indent)]
        ⟨parameters.closing indent rest, false⟩ := by
  have ended := parameters.closing_ended indent rest
  have typeRead (ends : Bool) (held : List Tree) :
      reading rules (.rule .type) ⟨false, ends, held⟩
          ⟨(typed type indent "").tokens ++ parameters.closing indent rest, false⟩ =
        .done [type.tree .plain "" indent] (Cursor.after (parameters.closing indent rest) false) :=
    reads.whole .type "" indent ended
  rcases names with _ | ⟨first, _ | ⟨second, more⟩⟩
  · simp [Types.parameter, Types.namedParameter, Types.beforeGenericKey, Types.variadicParameter,
      Label.tree, mark, typeRead, Ty.withRole_tree]
  · have word : first ∉ typeWords := plain first rfl
    have noType (setting : Setting) : reading rules (.rule .type) setting
        ⟨token " " .mark "..." :: ((typed type indent "").tokens
          ++ parameters.closing indent rest), false⟩ = .mismatch := by
      simp [reading_rule, rules, Types.type, Types.simpleType]
    have noName (tail : List Token) :
        reading rules moreNames ⟨false, ends, held⟩ ⟨token " " .mark "..." :: tail, false⟩ =
          .done [] ⟨token " " .mark "..." :: tail, false⟩ := reading_moreNames_nil (by simp)
    simp [Types.parameter, Types.namedParameter, Types.beforeGenericKey, Types.variadicParameter,
      Label.tree, nameTrees, mark, name, typeRead, Ty.withRole_tree, word, noName, noType]
  · simp at single

end Labels

/-- A type is read as one in parentheses only where it ends with them. -/
theorem noSharedType_list {tokens : List Token}
    (inside : ∀ ends held, reading rules (.rule .type) ⟨false, ends, held⟩ ⟨tokens, false⟩ = .mismatch
      ∨ ∃ trees next more, reading rules (.rule .type) ⟨false, ends, held⟩ ⟨tokens, false⟩ =
          .done trees ⟨next :: more, false⟩
        ∧ ¬ (next.lexeme = .mark ∧ next.text = ")")) (space : String) :
    NoSharedType (token space .mark "(" :: tokens) := by
  refine fun ends held => .inl ?_
  have simple (setting : Setting) : reading rules (.rule .simpleType) setting
      ⟨token space .mark "(" :: tokens, false⟩ = .mismatch := by
    simp [reading_rule, rules, Types.simpleType]
  rw [reading_rule, rules, Types.type]
  rcases inside false [] with none | ⟨trees, next, more, found, other⟩
  · simp [simple, none]
  · simp [simple, found, other]

theorem tokens_list (role : Role) (space : String) (indent : Nat) (parameters : Parameters)
    (rest : List Token) :
    (listTree role space (parameters.trees indent)).tokens ++ rest = token space .mark "(" ::
      match parameters with
      | .nil => token "" .mark ")" :: rest
      | .cons label type parameters =>
          (label.tree "" (typed type indent)).tokens ++ parameters.closing indent rest := by
  cases parameters with
  | nil => simp [listTree, Parameters.trees]
  | cons label type parameters =>
      simp [listTree, Parameters.trees, tokensOf_append, Parameters.closing]

/-- A name in parentheses with something after it is no type in parentheses. -/
theorem noSharedType_word {text : String} (plain : text ∉ typeWords) {next : Token}
    {more : List Token} (ended : EndsName false (next :: more))
    (other : ¬ (next.lexeme = .mark ∧ next.text = ")")) :
    NoSharedType (token "" .mark "(" :: token "" .word text :: next :: more) := by
  refine noSharedType_list (fun ends held =>
    .inr ⟨[name .typeIdentifier .plain "" text], next, more, ?_, other⟩) ""
  rw [reading_rule, rules, Types.type, reading_alt, reading_name plain "" ended, Reply.orElse_done]
  simp

/-- Neither a comma nor a closing parenthesis starts a result. -/
theorem Result.first {result : Result} (some : result ≠ .none) (indent : Nat) (tail : List Token) :
    ∃ next more, Tree.tokensOf (result.trees indent) ++ tail = next :: more
      ∧ ¬ (next.lexeme = .mark ∧ next.text = ",") ∧ ¬ (next.lexeme = .mark ∧ next.text = ")") := by
  cases result with
  | none => exact absurd rfl some
  | lone type =>
      simp only [Result.trees, Tree.tokensOf, List.append_nil]
      exact (type.start .result " " indent tail).first
  | list parameters =>
      simp only [Result.trees, Tree.tokensOf, List.append_nil, tokens_list]
      exact ⟨_, _, rfl, by simp, by simp⟩

/-- One type in parentheses is read as a type, and then a result comes after it. -/
theorem noSharedType_alone {type : Ty} (reads : TypeReads type) {more : Parameters} {result : Result}
    (broad : more = .nil → result ≠ .none) (indent : Nat) (tail : List Token) :
    NoSharedType (token "" .mark "(" :: ((Label.tree ⟨false, []⟩ "" (typed type indent)).tokens
      ++ more.closing indent (Tree.tokensOf (result.trees indent) ++ tail))) := by
  have tokens (rest : List Token) :
      (Label.tree ⟨false, []⟩ "" (typed type indent)).tokens ++ rest =
        (typed type indent "").tokens ++ rest := by simp [Label.tree]
  have typeRead (ends : Bool) (held : List Tree) (rest : List Token) :
      reading rules (.rule .type) ⟨false, ends, held⟩
          ⟨(typed type indent "").tokens ++ more.closing indent rest, false⟩ =
        .done [type.tree .plain "" indent] ⟨more.closing indent rest, false⟩ := by
    rw [reads.whole .type "" indent (more.closing_ended indent rest), after_flat]
  rw [tokens]
  cases more with
  | nil =>
      obtain ⟨next, later, same, comma, close⟩ := Result.first (broad rfl) indent tail
      rw [same]
      refine fun ends held =>
        .inr ⟨[.node .parenthesizedType .plain [mark "" "(", type.tree .plain "" indent,
          mark "" ")"]], next, later, ?_, comma, close⟩
      have simple (setting : Setting) (tail : List Token) :
          reading rules (.rule .simpleType) setting ⟨token "" .mark "(" :: tail, false⟩ =
            .mismatch := by
        simp [reading_rule, rules, Types.simpleType]
      rw [reading_rule, rules, Types.type]
      simp [simple, typeRead]
      simp [Parameters.closing_nil, mark]
  | cons label other more =>
      refine noSharedType_list (fun ends held => .inr ⟨_, _, _, typeRead .., ?_⟩) ""
      simp

/-- A parameter with a name is no type: its name is read as one, and what comes after it is not the
end of the list. -/
theorem noSharedType_shared {name : String} (plain : name ∉ typeWords) (names : List String)
    (type : Ty) (indent : Nat) (more : Parameters) (rest : List Token) :
    NoSharedType (token "" .mark "(" ::
      ((Label.tree ⟨false, name :: names⟩ "" (typed type indent)).tokens
        ++ more.closing indent rest)) := by
  rw [tokens_shared]
  cases names with
  | nil =>
      have start := type.start .type " " indent (more.closing indent rest)
      obtain ⟨next, later, same, -, other⟩ := start.first
      have ended := start.endsName false
      simp only [List.flatMap_nil, List.nil_append]
      rw [same] at ended ⊢
      exact noSharedType_word plain ended other
  | cons second names =>
      refine noSharedType_word plain (fun next' more' same => .inr ?_) (by simp)
      obtain ⟨rfl, rfl⟩ := List.cons.inj same
      exact ⟨by simp, reading_typeArguments_other (by simp)⟩

theorem noSharedType_variadic {names : List String} (single : names.length ≤ 1)
    (plain : ∀ text ∈ names.head?, text ∉ typeWords) (type : Ty) (indent : Nat) (rest : List Token) :
    NoSharedType (token "" .mark "(" ::
      ((Label.tree ⟨true, names⟩ "" (typed type indent)).tokens ++ rest)) := by
  rcases names with _ | ⟨name, _ | ⟨second, names⟩⟩
  · refine noSharedType_list (fun ends held => .inl ?_) ""
    simp [Label.tree, reading_rule, rules, Types.type, Types.simpleType]
  · have ended (tail : List Token) : EndsName false (token " " .mark "..." :: tail) := by
      intro next more same
      obtain ⟨rfl, rfl⟩ := List.cons.inj same
      exact .inr ⟨by simp, reading_typeArguments_other (by simp)⟩
    simp only [Label.tree, nameTrees, List.flatMap_nil, List.cons_append, List.nil_append,
      Tree.tokens, Tree.tokensOf, tokens_name, tokens_mark, List.append_nil]
    exact noSharedType_word (plain name rfl) (ended _) (by simp)
  · simp at single

/-- The parameters of a function type are a type in parentheses only if they are one type alone; and
then a result comes after them. -/
theorem noSharedType_function {parameters : Parameters} {result : Result}
    (sound : parameters.Sound)
    (first : ∀ label type more, parameters = .cons label type more → TypeReads type)
    (broad : ∀ type, parameters = .cons ⟨false, []⟩ type .nil → result ≠ .none)
    (indent : Nat) (tail : List Token) :
    NoSharedType ((listTree .parameters "" (parameters.trees indent)).tokens
      ++ (Tree.tokensOf (result.trees indent) ++ tail)) := by
  rw [tokens_list]
  cases parameters with
  | nil =>
      refine noSharedType_list (fun ends held => .inl ?_) ""
      exact reading_closed (.inr ⟨_, _, rfl, rfl, by simp [closers]⟩) (Gram.opens_rule _) _
  | cons label type more =>
      have reads := first label type more rfl
      obtain ⟨variadic, names⟩ := label
      cases variadic with
      | true => exact noSharedType_variadic (sound.1.single rfl) sound.1.first type indent _
      | false =>
          cases names with
          | nil => exact noSharedType_alone reads (fun none => broad type (by rw [none])) indent tail
          | cons name names =>
              exact noSharedType_shared (sound.1.first name rfl) names type indent more _

theorem lone_notLabelled {type : Ty} {indent : Nat} {parameters : Parameters}
    (alone : isBareName ⟨false, []⟩ type = true → Unshared (parameters.closing indent rest))
    (space : String) :
    NotLabelled ((typed type indent space).tokens ++ parameters.closing indent rest) := by
  cases type with
  | name text =>
      obtain ⟨mark, more, same, listed⟩ := parameters.closing_start indent rest
      have unshared := alone rfl
      rw [same] at unshared ⊢
      exact unshared.notLabelled (by rcases listed with rfl | rfl <;> simp)
  | qualified package text =>
      refine Unshared.notLabelled (NoSharedType.unshared (fun ends held => .inl ?_) ?_) (by simp)
      · exact (reading_type_mark rfl (.inl rfl)).1
      · rintro next more same
        obtain ⟨rfl, -⟩ := List.cons.inj same
        simp
  | pointer target => exact notLabelled_mark (by simp)
  | slice element => exact notLabelled_mark (by simp)
  | array length element => exact notLabelled_mark (by simp)
  | function inner result => exact notLabelled_typeWord (by simp [typeWords])
  | struct fields => exact notLabelled_typeWord (by simp [typeWords])

theorem lone_reads {type : Ty} (reads : TypeReads type) {indent : Nat} {parameters : Parameters}
    (alone : isBareName ⟨false, []⟩ type = true → Unshared (parameters.closing indent rest))
    (space : String) :
    reading rules Types.parameter ⟨false, ends, held⟩
        ⟨(Label.tree ⟨false, []⟩ space (typed type indent)).tokens
          ++ parameters.closing indent rest, false⟩ =
      .done [Label.tree ⟨false, []⟩ space (typed type indent)]
        ⟨parameters.closing indent rest, false⟩ := by
  have tokens : (Label.tree ⟨false, []⟩ space (typed type indent)).tokens =
      (typed type indent space).tokens := by simp [Label.tree]
  have read (ends : Bool) (held : List Tree) :
      reading rules (.rule .type) ⟨false, ends, held⟩
          ⟨(typed type indent space).tokens ++ parameters.closing indent rest, false⟩ =
        .done [type.tree .plain space indent] ⟨parameters.closing indent rest, false⟩ := by
    rw [reads.whole .type space indent (parameters.closing_ended indent rest), after_flat]
  rw [tokens, (lone_notLabelled alone space).reads read, Ty.withRole_tree]
  rfl

/-- A parameter is read back, given those after it. -/
theorem label_reads {label : Label} (sound : label.Sound) {type : Ty} (reads : TypeReads type)
    {indent : Nat} {parameters : Parameters}
    (alone : isBareName label type = true → Unshared (parameters.closing indent rest))
    (space : String) :
    reading rules Types.parameter ⟨false, ends, held⟩
        ⟨(label.tree space (typed type indent)).tokens ++ parameters.closing indent rest, false⟩ =
      .done [label.tree space (typed type indent)] ⟨parameters.closing indent rest, false⟩ := by
  obtain ⟨variadic, names⟩ := label
  cases variadic with
  | true => exact variadic_reads indent parameters reads (sound.single rfl) sound.first space
  | false =>
      cases names with
      | nil => exact lone_reads reads alone space
      | cons first more => exact shared_reads indent parameters reads (sound.first first rfl) more space

/-- What is read of parameters after others, and what a word before them takes from them. -/
structure MoreRead (parameters : Parameters) : Prop where
  reads : ∀ indent rest ends held,
    reading rules moreParameters ⟨false, ends, held⟩ ⟨parameters.closing indent rest, false⟩ =
      .done (parameters.more indent) ⟨token "" .mark ")" :: rest, false⟩
  unshared : parameters.sharesType = false →
    ∀ indent rest, Unshared (parameters.closing indent rest)

theorem nil_more : MoreRead .nil where
  reads indent rest ends held := by
    rw [reading_many]
    simp [Parameters.closing_nil, Parameters.more]
  unshared _ indent rest := by
    refine (noSharedType_of_closed (Parameters.closing_closed indent .nil rest)).unshared ?_
    rintro next more same
    obtain ⟨rfl, -⟩ := List.cons.inj same
    simp

theorem cons_reads {label : Label} (sound : label.Sound) {type : Ty} (reads : TypeReads type)
    {parameters : Parameters} (later : MoreRead parameters)
    (alone : isBareName label type = true → parameters.sharesType = false) (indent : Nat) :
    reading rules moreParameters ⟨false, ends, held⟩
        ⟨(Parameters.cons label type parameters).closing indent rest, false⟩ =
      .done ((Parameters.cons label type parameters).more indent)
        ⟨token "" .mark ")" :: rest, false⟩ := by
  have here (ends : Bool) (held : List Tree) := @label_reads ends held rest label sound type reads
    indent parameters (fun bare => later.unshared (alone bare) indent rest) " "
  rw [reading_many, Parameters.closing_cons]
  simp [here, later.reads, Parameters.more, mark]

theorem tokens_struct (role : Role) (space : String) (indent : Nat) (fields : List Tree) :
    ∃ before more, (structTree role space indent fields).tokens =
      token space .word "struct" :: token before .mark "\x7b" :: more := by
  unfold structTree
  split
  · exact ⟨_, _, rfl⟩
  · exact ⟨_, _, rfl⟩

theorem tokens_function (role : Role) (space : String) (indent : Nat) (parameters : Parameters)
    (result : Result) (rest : List Token) :
    ((Ty.function parameters result).tree role space indent).tokens ++ rest =
      token space .word "func" :: ((listTree .parameters "" (parameters.trees indent)).tokens
        ++ (Tree.tokensOf (result.trees indent) ++ rest)) := by
  simp [Ty.tree]

/-- A word before a parameter takes no type from it, nor from those after it. -/
theorem cons_unshared {label : Label} {type : Ty} {parameters : Parameters}
    (sound : (Parameters.cons label type parameters).Sound)
    (inner : ∀ label first more result, type = .function (.cons label first more) result →
      TypeReads first)
    (later : MoreRead parameters) (broad : (Parameters.cons label type parameters).sharesType = false)
    (indent : Nat) (rest : List Token) :
    Unshared ((Parameters.cons label type parameters).closing indent rest) := by
  obtain ⟨labelled, typeSound, alone, -⟩ := sound
  obtain ⟨variadic, names⟩ := label
  rw [Parameters.closing_cons]
  cases variadic with
  | true =>
      rcases names with _ | ⟨first, _ | ⟨second, more⟩⟩
      · exact unshared_comma
      · refine Unshared.more ?_ " " first
        exact (noSharedType_mark (.inr (.inr rfl))).unshared_mark (by simp)
      · exact absurd (labelled.single rfl) (by simp)
  | false =>
      cases names with
      | cons first more => simp [Parameters.sharesType] at broad
      | nil =>
          -- a type that starts with a word is taken for one more name, unless a type comes after it
          cases type with
          | name text => exact (later.unshared (alone rfl) indent rest).more " " text
          | qualified package text =>
              refine Unshared.more ?_ " " package
              exact (noSharedType_mark (.inl rfl)).unshared_mark (by simp)
          | pointer target => exact unshared_comma
          | slice element => exact unshared_comma
          | array length element => exact unshared_comma
          | struct fields =>
              obtain ⟨before, more, same⟩ := tokens_struct .type " " indent
                (fields.trees (indent + 1) fields.width)
              have tokens : (Label.tree ⟨false, []⟩ " " (typed (.struct fields) indent)).tokens =
                  token " " .word "struct" :: token before .mark "\x7b" :: more := by
                simpa [Label.tree, Ty.tree] using same
              rw [tokens]
              refine Unshared.more ?_ " " "struct"
              exact (noSharedType_mark (.inr (.inl rfl))).unshared_mark (by simp)
          | function list result =>
              have tokens := tokens_function .type " " indent list result
                (parameters.closing indent rest)
              have first : (Label.tree ⟨false, []⟩ " " (typed (.function list result) indent)).tokens =
                  (typed (.function list result) indent " ").tokens := by simp [Label.tree]
              rw [first, tokens]
              refine Unshared.more ?_ " " "func"
              have none := @noSharedType_function list result typeSound.1
                (fun label first more same => inner label first more result (by rw [same]))
                (fun type same none => by simp [Parameters.sharesType, same, none] at broad) indent
                (parameters.closing indent rest)
              rw [tokens_list] at none ⊢
              exact none.unshared_mark (by simp)

theorem cons_more {label : Label} {type : Ty} {parameters : Parameters}
    (sound : (Parameters.cons label type parameters).Sound) (reads : TypeReads type)
    (inner : ∀ label first more result, type = .function (.cons label first more) result →
      TypeReads first)
    (later : MoreRead parameters) : MoreRead (.cons label type parameters) where
  reads indent _ _ _ := cons_reads sound.1 reads later sound.2.2.1 indent
  unshared broad := cons_unshared sound inner later broad

def ListReads (parameters : Parameters) : Prop :=
  ∀ role space indent follows ends held rest,
    reading rules (.rule .parameters) ⟨follows, ends, held⟩
        ⟨(listTree role space (parameters.trees indent)).tokens ++ rest, false⟩ =
      .done [listTree .plain space (parameters.trees indent)] (Cursor.after rest follows)

theorem nil_list : ListReads .nil := by
  intro role space indent follows ends held rest
  have none (setting : Setting) : reading rules Types.parameter setting
      ⟨token "" .mark ")" :: rest, false⟩ = .mismatch :=
    reading_closed (Parameters.closing_closed 0 .nil rest) (by decide +kernel) setting
  rw [reading_rule, rules, Types.parameters, tokens_list]
  simp [none, listTree, Parameters.trees, mark]

theorem cons_list {label : Label} (sound : label.Sound) {type : Ty} (reads : TypeReads type)
    {parameters : Parameters} (later : MoreRead parameters)
    (alone : isBareName label type = true → parameters.sharesType = false) :
    ListReads (.cons label type parameters) := by
  intro role space indent follows ends held rest
  have here (ends : Bool) (held : List Tree) := @label_reads ends held rest label sound type reads
    indent parameters (fun bare => later.unshared (alone bare) indent rest) ""
  rw [reading_rule, rules, Types.parameters, tokens_list]
  simp [here, later.reads, listTree, Parameters.trees, mark]

/-! Signatures. -/

def ResultReads (result : Result) : Prop :=
  ∀ indent follows ends held rest, Ended follows rest →
    reading rules Types.result ⟨follows, ends, held⟩
        (Cursor.after (Tree.tokensOf (result.trees indent) ++ rest) follows) =
      .done (result.trees indent) (Cursor.after rest follows)

/-- Where a type ends, neither a type nor a list comes next. -/
theorem Ended.noResult (ended : Ended follows rest) : NoResult (Cursor.after rest follows) := by
  rcases rest with _ | ⟨next, more⟩
  · exact .inl (.inl (.inl rfl))
  · rcases ended next more rfl with ⟨rfl, line⟩ | ⟨line, ⟨isMark, listed⟩ | string⟩
    · exact .inl (.inl (.inr (by simp [Cursor.after, line])))
    · have after : Cursor.after (next :: more) follows = ⟨next :: more, false⟩ := by
        simp [Cursor.after, line]
      by_cases closer : next.text ∈ closers
      · exact .inl (.inr ⟨next, more, rfl, isMark, closer⟩)
      · exact .inr ⟨next, more, after, .inl ⟨isMark, by simp_all [closers]⟩⟩
    · exact .inr ⟨next, more, by simp [Cursor.after, line], .inr string⟩

theorem none_result : ResultReads .none := by
  intro indent follows ends held rest ended
  simp only [Result.trees, Tree.tokensOf, List.nil_append]
  exact ended.noResult.reads

theorem lone_result {type : Ty} (reads : TypeReads type) : ResultReads (.lone type) := by
  intro indent follows ends held rest ended
  have start := type.start .result " " indent rest
  have after : Cursor.after ((type.tree .result " " indent).tokens ++ rest) follows =
      ⟨(type.tree .result " " indent).tokens ++ rest, false⟩ := by
    generalize (type.tree .result " " indent).tokens ++ rest = tokens at start
    cases start <;> simp
  have simple (ends : Bool) (held : List Tree) :
      reading rules (.rule .simpleType) ⟨follows, ends, held⟩
          ⟨(type.tree .result " " indent).tokens ++ rest, false⟩ =
        .done [type.tree .plain " " indent] (Cursor.after rest follows) := by
    rw [type.tokens_role .result .plain]
    exact reads " " indent follows rest ended ends held
  simp only [Result.trees, Tree.tokensOf, List.append_nil, after]
  simp only [Types.result, reading_alt, reading_as, start.not_list, simple, Reply.orElse_mismatch,
    Reply.map_done, Reply.orElse_done, List.map_cons, List.map_nil, Ty.withRole_tree]

theorem list_result {parameters : Parameters} (reads : ListReads parameters) :
    ResultReads (.list parameters) := by
  intro indent follows ends held rest ended
  have read (ends : Bool) (held : List Tree) :=
    reads .result " " indent follows ends held rest
  simp only [Result.trees, Tree.tokensOf, List.append_nil]
  rw [tokens_list] at read ⊢
  simp [Types.result, read]
  simp [listTree]

theorem signature_reads {parameters : Parameters} {result : Result} (list : ListReads parameters)
    (reads : ResultReads result) (indent : Nat) (ended : Ended follows rest) :
    reading rules Types.signature ⟨follows, ends, held⟩
        ⟨(listTree .parameters "" (parameters.trees indent)).tokens
          ++ (Tree.tokensOf (result.trees indent) ++ rest), false⟩ =
      .done (listTree .parameters "" (parameters.trees indent) :: result.trees indent)
        (Cursor.after rest follows) := by
  simp [Types.signature, list .parameters "" indent, reads indent follows _ _ rest ended]
  simp [listTree]

theorem function_reads {parameters : Parameters} {result : Result} (list : ListReads parameters)
    (reads : ResultReads result) : TypeReads (.function parameters result) := by
  intro space indent follows rest ended ends held
  rw [reading_rule, rules, Types.simpleType, tokens_function]
  simp [signature_reads list reads indent ended, Ty.tree, keyword]

/-! Fields, each on a line of its own. -/

theorem startsLine_cons {tail : List Token} (starts : StartsLine tail) :
    ∃ next more, tail = next :: more ∧ next.startsLine = true := by
  cases tail with
  | nil => simp [StartsLine] at starts
  | cons next more => exact ⟨next, more, rfl, by simpa [StartsLine, Cursor.after] using starts⟩

@[simp] theorem breaks_lineAt (indent : Nat) : breaks (lineAt indent) = true := by
  simp [breaks, lineAt]

@[simp] theorem breaks_column (width : Nat) : breaks (Layout.spaces width ++ " ") = false := by
  simp [breaks, Layout.spaces]

inductive TagEnds : Option Quote → List Token → Prop where
  | none {tail} (starts : StartsLine tail) : TagEnds none tail
  | some {tag tail} (starts : StartsLine tail) :
      TagEnds (some tag) (token " " (if tag.raw then .raw else .quoted) tag.text :: tail)

theorem tagEnds {tag : Option Quote} {tail : List Token} (starts : StartsLine tail) :
    TagEnds tag (Tree.tokensOf (tagTrees tag) ++ tail) := by
  cases tag with
  | none => exact .none starts
  | some tag =>
      have tokens : Tree.tokensOf (tagTrees (some tag)) ++ tail =
          token " " (if tag.raw then .raw else .quoted) tag.text :: tail := by
        cases raw : tag.raw <;> simp [tagTrees, Quote.tree, raw]
      rw [tokens]
      exact .some starts

theorem TagEnds.ended {tag : Option Quote} {tokens : List Token} (ends : TagEnds tag tokens) :
    Ended true tokens := by
  rintro next more rfl
  cases ends with
  | none starts =>
      obtain ⟨next', more', same, line⟩ := startsLine_cons starts
      obtain ⟨rfl, -⟩ := List.cons.inj same
      exact .inl ⟨rfl, line⟩
  | @some tag => cases tag.raw <;> exact .inr ⟨by simp, .inr (by simp)⟩

theorem TagEnds.first {tag : Option Quote} {tokens : List Token} (ends : TagEnds tag tokens) :
    ∃ next more, tokens = next :: more ∧ (next.startsLine = true
      ∨ next.startsLine = false ∧ (next.lexeme = .quoted ∨ next.lexeme = .raw)) := by
  cases ends with
  | none starts =>
      obtain ⟨next, more, rfl, line⟩ := startsLine_cons starts
      exact ⟨next, more, rfl, .inl line⟩
  | @some tag => cases tag.raw <;> exact ⟨_, _, rfl, .inr ⟨by simp, by simp⟩⟩

theorem reading_tag {tag : Option Quote} {tail : List Token} (starts : StartsLine tail) :
    reading rules Types.tag ⟨true, ends, held⟩
        (Cursor.after (Tree.tokensOf (tagTrees tag) ++ tail) true) =
      .done (tagTrees tag) ⟨tail, true⟩ := by
  have after : Cursor.after tail true = ⟨tail, true⟩ := starts
  cases tag with
  | none => simp [tagTrees, Types.tag, after]
  | some tag => cases raw : tag.raw <;> simp [tagTrees, Types.tag, Quote.tree, raw, after]

theorem reading_genericName_word {text : String} {next : Token} {more : List Token}
    (line : next.startsLine = false) (ended : EndsName true (next :: more)) (space : String) :
    reading rules (Types.genericName []) ⟨follows, true, held⟩
      ⟨token space .word text :: next :: more, false⟩ = .mismatch := by
  have ⟨dot, arguments⟩ := (ended next more rfl).resolve_left (by simp [line])
  simp [Types.genericName, dot, arguments, line]

@[simp] theorem genericName_nullable (reserved : List String) :
    (Types.genericName reserved).nullable = false := rfl

@[simp] theorem genericName_flat (reserved : List String) :
    (Types.genericName reserved).startsWithTerminator = false := rfl

@[simp] theorem tag_nullable : Types.tag.nullable = true := rfl

@[simp] theorem tag_flat : Types.tag.startsWithTerminator = false := rfl

theorem named_field {type : Ty} (reads : TypeReads type) (indent width : Nat) (first : String)
    (more : List String) (tag : Option Quote) :
    LineReads (.rule .field) (fieldTree indent width (first :: more) (typed type indent) tag) where
  starts tail := by
    simp [fieldTree, nameTrees, StartsLine]
  reads tail ends held starts := by
    generalize column : Layout.spaces (width - (", ".intercalate (first :: more)).length) ++ " " =
      space
    have flat : breaks space = false := by simp [← column]
    have tokens : (fieldTree indent width (first :: more) (typed type indent) tag).tokens ++ tail =
        token (lineAt indent) .word first
          :: (more.flatMap (fun text => [token "" .mark ",", token " " .word text])
            ++ ((typed type indent space).tokens ++ (Tree.tokensOf (tagTrees tag) ++ tail))) := by
      simp [fieldTree, nameTrees, tokensOf_append, tokensOf_names, column]
    have start := type.start .type space indent (Tree.tokensOf (tagTrees tag) ++ tail)
    have typeRead (ends : Bool) (held : List Tree) :
        reading rules (.rule .type) ⟨true, ends, held⟩
            ⟨(typed type indent space).tokens ++ (Tree.tokensOf (tagTrees tag) ++ tail), false⟩ =
          .done [type.tree .plain space indent]
            (Cursor.after (Tree.tokensOf (tagTrees tag) ++ tail) true) :=
      reads.whole .type space indent (tagEnds starts).ended
    -- what comes after the first name is on its line, and neither a dot nor arguments
    obtain ⟨next, later, same, line, ended⟩ : ∃ next later,
        more.flatMap (fun text => [token "" .mark ",", token " " .word text])
            ++ ((typed type indent space).tokens ++ (Tree.tokensOf (tagTrees tag) ++ tail)) =
          next :: later ∧ next.startsLine = false ∧ EndsName true (next :: later) := by
      cases more with
      | nil =>
          have ended := start.endsName true
          simp only [List.flatMap_nil, List.nil_append]
          generalize (typed type indent space).tokens ++ _ = tokens at start ended
          cases start <;> exact ⟨_, _, rfl, by simp [flat], ended⟩
      | cons second more =>
          refine ⟨_, _, rfl, by simp, ?_⟩
          rintro next later same
          obtain ⟨rfl, rfl⟩ := List.cons.inj same
          exact .inr ⟨by simp, reading_typeArguments_other (by simp)⟩
    have names (ends : Bool) (held : List Tree) :=
      @reading_moreNames ends held _ .fieldIdentifier more start.not_comma
    rw [tokens, same, reading_rule, rules, Types.field]
    rw [same] at names
    simp [Types.embeddedGeneric, Types.namedField, line, names, typeRead, reading_tag starts,
      reading_genericName_word line ended]
    simp [fieldTree, nameTrees, column, Ty.withRole_tree, Written.name]

/-- What does not go on with a name: neither arguments nor more names nor a type. -/
theorem noField {next : Token} {more : List Token}
    (other : (next.lexeme = .mark ∧ next.text = ".") ∨ next.lexeme = .quoted ∨ next.lexeme = .raw) :
    (∀ setting, reading rules (.rule .typeArguments) setting ⟨next :: more, false⟩ = .mismatch)
      ∧ (∀ setting, reading rules
          (.many (.seq (.leaf .mark (.mark ",")) (.as .name (.leaf .fieldIdentifier (.name [])))))
            setting ⟨next :: more, false⟩ = .done [] ⟨next :: more, false⟩)
      ∧ ∀ setting, reading rules (.rule .type) setting ⟨next :: more, false⟩ = .mismatch := by
  refine ⟨fun setting => ?_, fun setting => ?_, fun setting => ?_⟩
  · rcases other with ⟨isMark, dot⟩ | string | string <;>
      exact reading_typeArguments_other (by simp [*]) setting
  · rw [reading_many]
    rcases other with ⟨isMark, dot⟩ | string | string <;> simp [*]
  · rw [reading_rule, rules, Types.type]
    rcases other with ⟨isMark, dot⟩ | string | string <;>
      simp [reading_rule, rules, Types.simpleType, *]

/-- A name alone, up to the end of its line, is an embedded field. -/
theorem embedded_field {type : Ty} (embeds : type.Embeds) (indent width : Nat) (tag : Option Quote) :
    LineReads (.rule .field) (fieldTree indent width [] (typed type indent) tag) where
  starts tail := by
    cases type with
    | name text => simp [fieldTree, Ty.tree, StartsLine]
    | qualified package text => simp [fieldTree, Ty.tree, StartsLine]
    | _ => exact embeds.elim
  reads tail ends held starts := by
    have tokens : (fieldTree indent width [] (typed type indent) tag).tokens ++ tail =
        (typed type indent (lineAt indent)).tokens ++ (Tree.tokensOf (tagTrees tag) ++ tail) := by
      simp [fieldTree]
    have tagged (ends : Bool) (held : List Tree) := @reading_tag ends held tag tail starts
    obtain ⟨next, more, same, known⟩ := (tagEnds starts : TagEnds tag _).first
    rw [same] at tagged
    rw [tokens, same, reading_rule, rules, Types.field]
    cases type with
    | name text =>
        rcases known with line | ⟨line, string⟩
        · simp [Types.embeddedGeneric, Types.genericName, Types.namedField, Types.embeddedField,
            line, tagged, Ty.tree, fieldTree, Written.name]
        · have other : next.lexeme ≠ .mark := by rcases string with string | string <;> simp [string]
          have goesOn := @noField next more (.inr string)
          simp [Types.embeddedGeneric, Types.genericName, Types.namedField, Types.embeddedField,
            line, tagged, Ty.tree, fieldTree, Written.name, other, goesOn]
    | qualified package text =>
        have dotted := @noField (token "" .mark ".") (token "" .word text :: next :: more)
          (.inl ⟨rfl, rfl⟩)
        rcases known with line | ⟨line, string⟩
        · simp [Types.embeddedGeneric, Types.genericName, Types.namedField, Types.embeddedField,
            line, tagged, Ty.tree, fieldTree, Written.name, dotted, mark]
        · have goesOn := @noField next more (.inr string)
          simp [Types.embeddedGeneric, Types.genericName, Types.namedField, Types.embeddedField,
            line, tagged, Ty.tree, fieldTree, Written.name, dotted, goesOn, mark]
    | _ => exact embeds.elim

def FieldsRead (fields : Fields) : Prop :=
  ∀ indent width, ∀ tree ∈ fields.trees indent width, LineReads (.rule .field) tree

theorem struct_reads {fields : Fields} (read : FieldsRead fields) : TypeReads (.struct fields) := by
  intro space indent follows rest ended ends held
  have refused (after : String) (setting : Setting) : reading rules (.rule .field) setting
      ⟨token after .mark "\x7d" :: rest, false⟩ = .mismatch :=
    reading_closed (.inr ⟨_, _, rfl, rfl, by simp [closers]⟩) (Gram.opens_rule _) setting
  rw [reading_rule, rules, Types.simpleType]
  by_cases none : fields.trees (indent + 1) fields.width = []
  · have listed (ends : Bool) (held : List Tree) :
        reading rules (Types.terminated (.rule .field)) ⟨false, ends, held⟩
            ⟨token "" .mark "\x7d" :: rest, false⟩ =
          .done [] ⟨token "" .mark "\x7d" :: rest, false⟩ := by
      simp [Types.terminated, refused]
    simp [Ty.tree, structTree, none, listed, keyword, mark]
  · have listed (ends : Bool) (held : List Tree) :
        reading rules (Types.terminated (.rule .field)) ⟨false, ends, held⟩
            ⟨Tree.tokensOf (fields.trees (indent + 1) fields.width)
              ++ token (lineAt indent) .mark "\x7d" :: rest, false⟩ =
          .done (fields.trees (indent + 1) fields.width)
            ⟨token (lineAt indent) .mark "\x7d" :: rest, false⟩ :=
      reading_lines (read _ _) (fun _ => startsLine_token (by simp) _ _) (refused _)
    simp [Ty.tree, structTree, none, tokensOf_append, listed, keyword, mark]

end Types

mutual

/-- A type is read back where it ends. -/
theorem Ty.reads (type : Ty) (sound : type.Sound) : TypeReads type := by
  cases type with
  | name text => exact fun space _ _ _ ended _ _ => reading_name sound.2 space ended.endsName
  | qualified package text =>
      exact fun space _ _ _ ended _ _ => reading_qualified sound.2.1 space text ended.endsName
  | pointer target => exact pointer_reads (target.reads sound)
  | slice element => exact slice_reads (element.reads sound)
  | array length element => exact array_reads (element.reads sound.2)
  | function parameters result => exact function_reads (parameters.reads sound.1) (result.reads sound.2)
  | struct fields => exact struct_reads (fields.reads sound)

theorem Parameters.reads (parameters : Parameters) (sound : parameters.Sound) :
    ListReads parameters := by
  cases parameters with
  | nil => exact nil_list
  | cons label type rest =>
      exact cons_list sound.1 (type.reads sound.2.1) (rest.readsMore sound.2.2.2) sound.2.2.1

theorem Parameters.readsMore (parameters : Parameters) (sound : parameters.Sound) :
    MoreRead parameters := by
  cases parameters with
  | nil => exact nil_more
  | cons label type rest =>
      exact cons_more sound (type.reads sound.2.1) (type.readsInner sound.2.1)
        (rest.readsMore sound.2.2.2)

/-- So is the type of the first parameter of a type of functions. -/
theorem Ty.readsInner (type : Ty) (sound : type.Sound) :
    ∀ label first more result, type = .function (.cons label first more) result →
      TypeReads first := by
  cases type with
  | function parameters result =>
      rintro label first more _ same
      obtain ⟨rfl, -⟩ := Ty.function.inj same
      exact first.reads sound.1.2.1
  | _ => simp

theorem Result.reads (result : Result) (sound : result.Sound) : ResultReads result := by
  cases result with
  | none => exact none_result
  | lone type => exact lone_result (type.reads sound)
  | list parameters => exact list_result (parameters.reads sound.1)

theorem Fields.reads (fields : Fields) (sound : fields.Sound) : FieldsRead fields := by
  match fields, sound with
  | .nil, _ => exact fun _ _ tree member => by simp [Fields.trees] at member
  | .cons [] type tag rest, sound =>
      intro indent width tree member
      rcases List.mem_cons.1 member with rfl | later
      · exact embedded_field sound.1 indent width tag
      · exact rest.reads sound.2.2 indent width tree later
  | .cons (first :: names) type tag rest, sound =>
      intro indent width tree member
      rcases List.mem_cons.1 member with rfl | later
      · exact named_field (type.reads sound.2.1) indent width first names tag
      · exact rest.reads sound.2.2.2 indent width tree later

end

end InterfaceMocks.Preservation
