import InterfaceMocks.Proofs.Written.Declarations
import InterfaceMocks.Proofs.Written.Lexing

/-!
Written constructs are cut into the tokens they were written with: names are identifiers, white space
is blank, and where two tokens touch, one of them is punctuation.
-/

namespace InterfaceMocks.Written

open InterfaceMocks.Syntax
open InterfaceMocks.Grammar (tokensOf_append)
open InterfaceMocks.Text
open Lexer

abbrev Blank (space : String) : Prop := space.toList.all isSpace = true

abbrev IsName (text : String) : Prop := Identifier.isIdentifier text = true

abbrev Continues (text : String) : Prop := ∀ c ∈ text.toList, Identifier.continues c = true

theorem continues_of_opens {c : Char} (opens : Identifier.opens c = true) :
    Identifier.continues c = true := by
  by_cases ascii : c.val < 128
  · simp only [Identifier.opens, Identifier.continues, ascii, if_true, Char.isAlphanum,
      Bool.or_eq_true] at *
    exact opens.imp .inl id
  · simp only [Identifier.opens, Identifier.continues, ascii, if_false, Bool.or_eq_true] at *
    exact .inl opens

theorem isName_first {text : String} (isName : IsName text) :
    ∃ c rest, text.toList = c :: rest ∧ Identifier.opens c = true
      ∧ ∀ d ∈ rest, Identifier.continues d = true := by
  simp only [IsName, Identifier.isIdentifier] at isName
  cases cs : text.toList with
  | nil => simp [cs] at isName
  | cons c rest =>
      rw [cs] at isName
      simp only [Bool.and_eq_true, List.all_eq_true] at isName
      exact ⟨c, rest, rfl, isName⟩

theorem isName_continues {text : String} (isName : IsName text) : Continues text := by
  obtain ⟨c, rest, chars, opens, more⟩ := isName_first isName
  intro d member
  rw [chars] at member
  rcases List.mem_cons.1 member with rfl | later
  · exact continues_of_opens opens
  · exact more d later

theorem isName_ne {text : String} (isName : IsName text) : text ≠ "" := by
  rintro rfl
  exact absurd isName (by decide)

theorem not_continues_of_isSpace {c : Char} (space : isSpace c = true) :
    Identifier.continues c = false := by
  simp only [isSpace, Bool.or_eq_true, beq_iff_eq] at space
  rcases space with ((((rfl | rfl) | rfl) | rfl) | rfl) | rfl <;> decide

theorem fresh_of_blank {space : String} (blank : Blank space) : Fresh space.toList := by
  intro c first
  exact not_continues_of_isSpace (List.all_eq_true.1 blank c (List.mem_of_mem_head? first))

/-- Before white space or a mark, an identifier ends. -/
theorem fresh_token {space text : String} {lexeme : Lexeme} (blank : Blank space)
    (separate : space ≠ "" ∨ Fresh text.toList ∧ text ≠ "") (rest : List Token) (next : List Char) :
    Fresh (chars (token space lexeme text :: rest) ++ next) := by
  intro c first
  have source : (token space lexeme text).source.toList = space.toList ++ text.toList := by
    simp [Token.source, token, gap_text]
  rw [chars_cons, source] at first
  cases space : space.toList with
  | nil =>
      have none : _ = "" := String.toList_injective (by simpa using space)
      obtain ⟨fresh, some⟩ := separate.resolve_left (absurd none)
      cases text : text.toList with
      | nil => exact absurd (String.toList_injective (by simpa using text)) some
      | cons d more =>
          rw [text] at fresh
          simp only [space, text, List.nil_append, List.cons_append, List.head?_cons,
            Option.mem_def, Option.some.injEq] at first
          exact first ▸ fresh d rfl
  | cons d more =>
      simp only [space, List.cons_append, List.head?_cons, Option.mem_def,
        Option.some.injEq] at first
      rw [Blank, space, List.all_cons, Bool.and_eq_true] at blank
      exact first ▸ not_continues_of_isSpace blank.1

theorem fresh_blank {lexeme : Lexeme} {text : String} (rest : List Token) (next : List Char) :
    Fresh (chars (token " " lexeme text :: rest) ++ next) :=
  fresh_token (by decide : Blank " ") (.inl (by simp)) rest next

theorem fresh_mark {space text : String} (blank : Blank space) (mark : text ∈ "." :: brackets)
    (rest : List Token) (next : List Char) :
    Fresh (chars (token space .mark text :: rest) ++ next) := by
  refine fresh_token blank (.inr ?_) rest next
  simp only [brackets, List.mem_cons, List.not_mem_nil, or_false] at mark
  rcases mark with rfl | rfl | rfl | rfl | rfl | rfl | rfl | rfl <;>
    exact ⟨by simp [Fresh]; decide, by simp⟩

/-- The first character of a name, after the white space before it. -/
theorem name_head {text : String} (isName : IsName text) (rest : List Token) (next : List Char) :
    ∃ c, (chars (token "" .word text :: rest) ++ next).head? = some c
      ∧ Identifier.opens c = true := by
  obtain ⟨c, more, same, opens, -⟩ := isName_first isName
  exact ⟨c, by simp [chars_cons, Token.source, token, gap_text, same], opens⟩

theorem opens_other {c : Char} (opens : Identifier.opens c = true) :
    c ≠ '=' ∧ c ≠ '.' ∧ c.isDigit = false := by
  refine ⟨?_, ?_, ?_⟩
  · rintro rfl
    exact absurd opens (by decide)
  · rintro rfl
    exact absurd opens (by decide)
  · cases digit : c.isDigit with
    | false => rfl
    | true =>
        have small : c.val < 128 := by
          simp only [Char.isDigit, Bool.and_eq_true, decide_eq_true_eq] at digit
          exact Nat.lt_of_le_of_lt digit.2 (by decide)
        simp only [Identifier.opens, small, if_true, Bool.or_eq_true, beq_iff_eq] at opens
        rcases opens with letter | rfl
        · simp only [Char.isDigit, Bool.and_eq_true, decide_eq_true_eq, UInt32.le_iff_toNat_le]
            at digit
          have codes := Identifier.isAlpha_iff.1 letter
          have nine : '9'.val.toNat = 57 := rfl
          omega
        · exact absurd digit (by decide)

/-- Whether the names in a type are identifiers, and the lengths literals. -/
def TypeSpelled : TypeExpr → Prop
  | .named text => IsName text
  | .qualified package text => IsName package ∧ IsName text
  | .pointer inner => TypeSpelled inner
  | .array none element => TypeSpelled element
  | .array (some text) element => LiteralStands text ∧ TypeSpelled element
  | .unrecognised => False

/-- A type starts with a letter, a star or a bracket. -/
theorem type_head {expr : TypeExpr} (spelled : TypeSpelled expr) (role : Role) (next : List Char) :
    ∀ c ∈ (chars (type role "" expr).tokens ++ next).head?, c ≠ '=' := by
  intro c first
  have word (text : String) (rest : List Token) (isName : IsName text)
      (first : c ∈ (chars (token "" .word text :: rest) ++ next).head?) : c ≠ '=' := by
    obtain ⟨d, head, opens⟩ := name_head isName rest next
    rw [head] at first
    obtain rfl := Option.some.inj first
    exact (opens_other opens).1
  cases expr with
  | named text => exact word text [] spelled first
  | qualified package text => exact word package _ spelled.1 first
  | pointer inner =>
      obtain rfl : '*' = c := by simpa [type, chars_cons, Token.source, token, gap_text] using first
      decide
  | array length element =>
      obtain rfl : '[' = c := by
        cases length <;> simpa [type, chars_cons, Token.source, token, gap_text] using first
      decide
  | unrecognised => exact spelled.elim

theorem type_lexes {expr : TypeExpr} (spelled : TypeSpelled expr) (role : Role) {space : String}
    (blank : Blank space) {next : List Char} (fresh : Fresh next) :
    Lexes (type role space expr).tokens next := by
  have nothing : Blank "" := by decide
  induction expr generalizing role space with
  | named text => exact ⟨stands_word blank spelled fresh, trivial⟩
  | qualified package text =>
      refine ⟨stands_word blank spelled.1 (fresh_mark nothing (by simp) _ _), ?_, ?_, trivial⟩
      · refine stands_dot nothing fun c first => ?_
        obtain ⟨d, head, opens⟩ := name_head spelled.2 [] next
        obtain rfl := Option.some.inj (head.symm.trans first)
        exact (opens_other opens).2
      · exact stands_word nothing spelled.2 fresh
  | pointer inner ih =>
      have spelled : TypeSpelled inner := spelled
      have inside := ih spelled .plain nothing
      simp only [type, Tree.tokens, Tree.tokensOf, tokens_mark, List.append_nil]
      exact ⟨stands_beforeEquals blank (by simp) (type_head spelled .plain next), inside⟩
  | array length element ih =>
      cases length with
      | none =>
          have inside := ih spelled .element nothing
          simp only [type, Tree.tokens, Tree.tokensOf, tokens_mark, List.append_nil]
          exact ⟨stands_bracket blank (by simp [brackets]) _,
            stands_bracket nothing (by simp [brackets]) _, inside⟩
      | some text =>
          have inside := ih spelled.2 .element nothing
          simp only [type, Written.length, Tree.tokens, Tree.tokensOf, tokens_mark, List.append_nil]
          refine ⟨stands_bracket blank (by simp [brackets]) _, ?_,
            stands_bracket nothing (by simp [brackets]) _, inside⟩
          have close : chars ([token "" .mark "]"] ++ (type .element "" element).tokens) ++ next =
              ']' :: (chars (type .element "" element).tokens ++ next) := by
            simp [chars_cons, Token.source, token, gap_text]
          exact close ▸ spelled.1.stands _
  | unrecognised => exact spelled.elim

theorem blank_nothing : Blank "" := by decide

theorem blank_space : Blank " " := by decide

theorem blank_line : Blank "\n" := by decide

theorem lexes_word {space text : String} (blank : Blank space) (isName : IsName text)
    {rest : List Token} {next : List Char} (fresh : Fresh (chars rest ++ next))
    (later : Lexes rest next) : Lexes (token space .word text :: rest) next :=
  ⟨stands_word blank isName fresh, later⟩

theorem lexes_bracket {space text : String} (blank : Blank space) (bracket : text ∈ brackets)
    {rest : List Token} {next : List Char} (later : Lexes rest next) :
    Lexes (token space .mark text :: rest) next :=
  ⟨stands_bracket blank bracket _, later⟩

def nameTokens (names : List String) : List Token :=
  names.flatMap fun text => [token "" .mark ",", token " " .word text]

/-- Names with a comma before each end where what comes after them does. -/
theorem fresh_nameTokens {names : List String} {rest : List Token} {next : List Char}
    (fresh : Fresh (chars rest ++ next)) : Fresh (chars (nameTokens names ++ rest) ++ next) := by
  cases names with
  | nil => exact fresh
  | cons text names => exact fresh_mark blank_nothing (by simp [brackets]) _ _

theorem nameTokens_lexes {names : List String} (spelled : ∀ text ∈ names, IsName text)
    {rest : List Token} {next : List Char} (fresh : Fresh (chars rest ++ next))
    (later : Lexes rest next) : Lexes (nameTokens names ++ rest) next := by
  induction names with
  | nil => exact later
  | cons text names ih =>
      exact lexes_bracket blank_nothing (by simp [brackets])
        (lexes_word blank_space (spelled text List.mem_cons_self) (fresh_nameTokens fresh)
          (ih fun other member => spelled other (List.mem_cons_of_mem _ member)))

/-! Parameters and signatures. -/

structure Slot.Spelled (slot : Slot) : Prop where
  blank : Blank slot.space
  names : ∀ text ∈ slot.names, IsName text
  type : TypeSpelled slot.type

theorem slot_lexes {slot : Slot} (spelled : slot.Spelled) {next : List Char} (fresh : Fresh next) :
    Lexes slot.tree.tokens next := by
  obtain ⟨space, names, expr⟩ := slot
  obtain ⟨blank, names', typed⟩ := spelled
  cases names with
  | nil =>
      have tokens : (Slot.mk space [] expr).tree.tokens = (type .type space expr).tokens := by
        simp [Slot.tree, Slot.trees]
      exact tokens ▸ type_lexes typed .type blank fresh
  | cons first more =>
      have tokens : (Slot.mk space (first :: more) expr).tree.tokens = token space .word first ::
          (nameTokens more ++ (type .type " " expr).tokens) := by
        simp [Slot.tree, Slot.trees, tokensOf_append, tokensOf_names, nameTokens]
      have separate : Fresh (chars (type .type " " expr).tokens ++ next) := by
        obtain ⟨lexeme, text, rest, start, -⟩ := type_start .type " " expr
        exact start ▸ fresh_blank rest next
      rw [tokens]
      exact lexes_word blank (names' first List.mem_cons_self) (fresh_nameTokens separate)
        (nameTokens_lexes (fun text member => names' text (List.mem_cons_of_mem _ member)) separate
          (type_lexes typed .type blank_space fresh))

theorem fresh_closing (slots : List Slot) (rest : List Token) (next : List Char) :
    Fresh (chars (closing slots rest) ++ next) := by
  obtain ⟨text, more, start, listed⟩ := closing_start slots rest
  rw [start]
  exact fresh_mark blank_nothing (by rcases listed with rfl | rfl <;> simp [brackets]) _ _

theorem closing_lexes {slots : List Slot} (spelled : ∀ slot ∈ slots, slot.Spelled)
    {rest : List Token} {next : List Char} (later : Lexes rest next) :
    Lexes (closing slots rest) next := by
  induction slots with
  | nil => exact lexes_bracket blank_nothing (by simp [brackets]) later
  | cons slot slots ih =>
      have tokens : closing (slot :: slots) rest =
          token "" .mark "," :: (slot.tree.tokens ++ closing slots rest) := by
        simp [closing, slotTokens]
      rw [tokens]
      exact lexes_bracket blank_nothing (by simp [brackets]) (lexes_append.2
        ⟨slot_lexes (spelled slot List.mem_cons_self) (fresh_closing slots rest next),
          ih fun other member => spelled other (List.mem_cons_of_mem _ member)⟩)

theorem parameters_lexes (role : Role) {space : String} (blank : Blank space) {slots : List Slot}
    (spelled : ∀ slot ∈ slots, slot.Spelled) {rest : List Token} {next : List Char}
    (later : Lexes rest next) : Lexes ((parameters role space slots).tokens ++ rest) next := by
  rw [parameters_tokens]
  refine lexes_bracket blank (by simp [brackets]) ?_
  cases slots with
  | nil => exact closing_lexes (by simp) later
  | cons slot slots =>
      exact lexes_append.2
        ⟨slot_lexes (spelled slot List.mem_cons_self) (fresh_closing slots rest next),
          closing_lexes (fun other member => spelled other (List.mem_cons_of_mem _ member)) later⟩

def Result.Spelled : Result → Prop
  | none => True
  | lone space type => Blank space ∧ TypeSpelled type
  | list space slots => Blank space ∧ ∀ slot ∈ slots, slot.Spelled

structure Signature.Spelled (signature : Signature) : Prop where
  args : ∀ slot ∈ signature.args, slot.Spelled
  result : signature.result.Spelled

theorem signature_lexes {signature : Signature} (spelled : signature.Spelled) {rest : List Token}
    {next : List Char} (fresh : Fresh (chars rest ++ next)) (later : Lexes rest next) :
    Lexes (Tree.tokensOf signature.trees ++ rest) next := by
  have tokens : Tree.tokensOf signature.trees ++ rest =
      (parameters .parameters "" signature.args).tokens
        ++ (Tree.tokensOf signature.result.trees ++ rest) := by
    simp [Signature.trees]
  rw [tokens]
  refine parameters_lexes .parameters blank_nothing spelled.args ?_
  have result := spelled.result
  cases same : signature.result with
  | none => exact later
  | lone space type =>
      rw [same] at result
      simpa [Result.trees] using lexes_append.2 ⟨type_lexes result.2 .result result.1 fresh, later⟩
  | list space slots =>
      rw [same] at result
      simpa [Result.trees] using parameters_lexes .result result.1 result.2 later

theorem functionType_lexes (role : Role) {space : String} (blank : Blank space)
    {signature : Signature} (spelled : signature.Spelled) {rest : List Token} {next : List Char}
    (fresh : Fresh (chars rest ++ next)) (later : Lexes rest next) :
    Lexes ((functionType role space signature).tokens ++ rest) next := by
  have inside := signature_lexes spelled fresh later
  have tokens : (functionType role space signature).tokens ++ rest =
      token space .word "func" :: (Tree.tokensOf signature.trees ++ rest) := by
    simp [functionType]
  rw [tokens]
  refine lexes_word blank (by decide) ?_ inside
  simp only [Signature.trees, parameters, Tree.tokensOf, Tree.tokens, tokens_mark, List.cons_append,
    List.nil_append]
  exact fresh_mark blank_nothing (by simp [brackets]) _ _

/-! Declarations. -/

structure Apart (space : String) : Prop where
  blank : Blank space
  some : space ≠ ""

theorem Apart.fresh {space : String} (apart : Apart space) {lexeme : Lexeme} {text : String}
    (rest : List Token) (next : List Char) :
    Fresh (chars (token space lexeme text :: rest) ++ next) :=
  fresh_token apart.blank (.inl apart.some) rest next

structure Field.Spelled (field : Field) : Prop where
  space : Apart field.space
  name : IsName field.name
  typeSpace : Apart field.typeSpace
  signature : field.signature.Spelled

/-- Trees that start with white space each can be written one after the other. -/
theorem lines_lex {trees : List Tree} {rest : List Token} {next : List Char}
    (fresh : Fresh (chars rest ++ next)) (later : Lexes rest next)
    (starts : ∀ tree ∈ trees, ∀ rest, Fresh (chars (tree.tokens ++ rest) ++ next))
    (each : ∀ tree ∈ trees, ∀ rest, Fresh (chars rest ++ next) → Lexes rest next →
      Lexes (tree.tokens ++ rest) next) :
    Fresh (chars (Tree.tokensOf trees ++ rest) ++ next)
      ∧ Lexes (Tree.tokensOf trees ++ rest) next := by
  induction trees with
  | nil => exact ⟨fresh, later⟩
  | cons tree trees ih =>
      obtain ⟨fresh', later'⟩ := ih
        (fun other member => starts other (List.mem_cons_of_mem _ member))
        (fun other member => each other (List.mem_cons_of_mem _ member))
      have tokens : Tree.tokensOf (tree :: trees) ++ rest =
          tree.tokens ++ (Tree.tokensOf trees ++ rest) := by simp
      rw [tokens]
      exact ⟨starts tree List.mem_cons_self _, each tree List.mem_cons_self _ fresh' later'⟩

/-- The lines of a list, up to the bracket that closes it. -/
theorem listed_lexes {α : Type} {item : α → Tree} {items : List α} {after bracket : String}
    (blank : Blank after) (closes : bracket ∈ brackets) {rest : List Token} {next : List Char}
    (later : Lexes rest next)
    (starts : ∀ a ∈ items, ∀ rest, Fresh (chars ((item a).tokens ++ rest) ++ next))
    (each : ∀ a ∈ items, ∀ rest, Fresh (chars rest ++ next) → Lexes rest next →
      Lexes ((item a).tokens ++ rest) next) :
    Lexes (Tree.tokensOf (items.map item) ++ token after .mark bracket :: rest) next := by
  refine (lines_lex (fresh_mark blank (List.mem_cons_of_mem _ closes) _ _)
    (lexes_bracket blank closes later) ?_ ?_).2
  · intro tree member
    obtain ⟨a, among, rfl⟩ := List.mem_map.1 member
    exact starts a among
  · intro tree member
    obtain ⟨a, among, rfl⟩ := List.mem_map.1 member
    exact each a among

/-- A keyword and, in braces, the lines of a list. -/
theorem braced_lexes {α : Type} {item : α → Tree} {items : List α} {word before after : String}
    (isName : IsName word) (blank : Blank before) (blank' : Blank after) {rest : List Token}
    {next : List Char} (later : Lexes rest next)
    (starts : ∀ a ∈ items, ∀ rest, Fresh (chars ((item a).tokens ++ rest) ++ next))
    (each : ∀ a ∈ items, ∀ rest, Fresh (chars rest ++ next) → Lexes rest next →
      Lexes ((item a).tokens ++ rest) next) :
    Lexes (token " " .word word :: token before .mark "\x7b" ::
      (Tree.tokensOf (items.map item) ++ token after .mark "\x7d" :: rest)) next :=
  lexes_word blank_space isName (fresh_mark blank (by simp [brackets]) _ _)
    (lexes_bracket blank (by simp [brackets])
      (listed_lexes blank' (by simp [brackets]) later starts each))

namespace Field.Spelled

variable {field : Field} {rest : List Token} {next : List Char}

theorem fresh (spelled : field.Spelled) : Fresh (chars (field.tree.tokens ++ rest) ++ next) := by
  simp only [Field.tree, Tree.tokens, Tree.tokensOf, tokens_name, List.cons_append, List.nil_append]
  exact spelled.space.fresh _ _

theorem lexes (spelled : field.Spelled) (fresh : Fresh (chars rest ++ next))
    (later : Lexes rest next) : Lexes (field.tree.tokens ++ rest) next := by
  have tokens : field.tree.tokens ++ rest = token field.space .word field.name ::
      ((functionType .type field.typeSpace field.signature).tokens ++ rest) := by
    simp [Field.tree]
  rw [tokens]
  refine lexes_word spelled.space.blank spelled.name ?_
    (functionType_lexes .type spelled.typeSpace.blank spelled.signature fresh later)
  simp only [functionType, Tree.tokens, Tree.tokensOf, tokens_keyword, List.cons_append,
    List.nil_append]
  exact spelled.typeSpace.fresh _ _

end Field.Spelled

theorem structType_lexes {before after : String} (blank : Blank before) (blank' : Blank after)
    {fields : List Field} (spelled : ∀ field ∈ fields, field.Spelled) {rest : List Token}
    {next : List Char} (later : Lexes rest next) :
    Lexes ((structType before fields after).tokens ++ rest) next := by
  have tokens : (structType before fields after).tokens ++ rest = token " " .word "struct" ::
      token before .mark "\x7b" :: (Tree.tokensOf (fields.map Field.tree)
        ++ token after .mark "\x7d" :: rest) := by
    simp [structType, tokensOf_append]
  rw [tokens]
  exact braced_lexes (by decide) blank blank' later
    (fun field among _ => (spelled field among).fresh)
    fun field among _ fresh later => (spelled field among).lexes fresh later

theorem typeDeclaration_lexes {space text : String} (blank : Blank space) (isName : IsName text)
    {target : Tree} {opening : String} {more : List Token}
    (start : target.tokens = token " " .word opening :: more) {rest : List Token}
    {next : List Char} (later : Lexes (target.tokens ++ rest) next) :
    Lexes ((typeDeclaration space text target).tokens ++ rest) next := by
  have tokens : (typeDeclaration space text target).tokens ++ rest = token space .word "type" ::
      token " " .word text :: (target.tokens ++ rest) := by
    simp [typeDeclaration]
  rw [tokens]
  refine lexes_word blank (by decide) (fresh_blank _ _) (lexes_word blank_space isName ?_ later)
  rw [start]
  exact fresh_blank _ _

theorem call_lexes {space receiver field : String} (blank : Blank space) (isName : IsName receiver)
    (isField : IsName field) {args : List String} (spelled : ∀ text ∈ args, IsName text)
    {rest : List Token} {next : List Char} (later : Lexes rest next) :
    Lexes ((call space receiver field args).tokens ++ rest) next := by
  rw [call_tokens]
  refine lexes_word blank isName (fresh_mark blank_nothing (by simp) _ _) ⟨?_, ?_⟩
  · refine stands_dot blank_nothing fun c first => ?_
    obtain ⟨d, head, opens⟩ := name_head isField _ next
    obtain rfl := Option.some.inj (head.symm.trans first)
    exact (opens_other opens).2
  · refine lexes_word blank_nothing isField (fresh_mark blank_nothing (by simp [brackets]) _ _)
      (lexes_bracket blank_nothing (by simp [brackets]) ?_)
    rw [tokensOf_arguments]
    have close : Fresh (chars (token "" .mark ")" :: rest) ++ next) :=
      fresh_mark blank_nothing (by simp [brackets]) _ _
    have later : Lexes (token "" .mark ")" :: rest) next :=
      lexes_bracket blank_nothing (by simp [brackets]) later
    cases args with
    | nil => exact later
    | cons first more =>
        exact lexes_word blank_nothing (spelled first List.mem_cons_self) (fresh_nameTokens close)
          (nameTokens_lexes (fun text member => spelled text (List.mem_cons_of_mem _ member)) close
            later)

theorem block_lexes (role : Role) {space receiver field : String} (blank : Blank space)
    (isName : IsName receiver) (isField : IsName field) {args : List String}
    (spelled : ∀ text ∈ args, IsName text) (returns : Bool) {rest : List Token} {next : List Char}
    (later : Lexes rest next) :
    Lexes ((block role space returns receiver field args).tokens ++ rest) next := by
  have close : Lexes (token "\n" .mark "\x7d" :: rest) next :=
    lexes_bracket blank_line (by simp [brackets]) later
  have tokens : (block role space returns receiver field args).tokens ++ rest =
      token " " .mark "\x7b" :: ((statement returns space receiver field args).tokens
        ++ token "\n" .mark "\x7d" :: rest) := by
    simp [block]
  rw [tokens]
  refine lexes_bracket blank_space (by simp [brackets]) ?_
  cases returns with
  | true =>
      have called := call_lexes blank_space isName isField spelled close
      have tokens : (statement true space receiver field args).tokens
            ++ token "\n" .mark "\x7d" :: rest = token space .word "return" ::
          ((call " " receiver field args).tokens ++ token "\n" .mark "\x7d" :: rest) := by
        simp [statement]
      rw [tokens]
      refine lexes_word blank (by decide) ?_ called
      rw [call_tokens]
      exact fresh_blank _ _
  | false =>
      have called := call_lexes blank isName isField spelled close
      simpa [statement] using called

structure MockMethod.Spelled (method : MockMethod) : Prop where
  space : Blank method.space
  receiver : IsName method.receiver
  owner : IsName method.owner
  name : IsName method.name
  signature : method.signature.Spelled
  field : IsName method.field
  bodySpace : Blank method.bodySpace
  args : ∀ text ∈ method.args, IsName text

theorem mockMethod_lexes {method : MockMethod} (spelled : method.Spelled) {rest : List Token}
    {next : List Char} (later : Lexes rest next) :
    Lexes (method.tree.tokens ++ rest) next := by
  have receiver : ∀ slot ∈ [Slot.mk "" [method.receiver] (.named method.owner)],
      slot.Spelled := by
    intro slot member
    obtain rfl := List.mem_singleton.1 member
    refine ⟨blank_nothing, fun text member => ?_, spelled.owner⟩
    exact List.mem_singleton.1 member ▸ spelled.receiver
  rw [MockMethod.tree_tokens]
  refine lexes_word spelled.space (by decide) ?_
    (parameters_lexes .receiver blank_space receiver (lexes_word blank_space spelled.name ?_
      (signature_lexes spelled.signature ?_ (block_lexes .body spelled.bodySpace spelled.receiver
        spelled.field spelled.args method.returns later))))
  · rw [parameters_tokens]
    exact fresh_blank _ _
  · simp only [Signature.trees, Tree.tokensOf, parameters_tokens]
    exact fresh_mark blank_nothing (by simp [brackets]) _ _
  · exact fresh_blank _ _

structure ImportLine.Spelled (line : ImportLine) : Prop where
  space : Apart line.space
  label : line.label = "" ∨ line.label = "." ∨ IsName line.label
  path : Quotable line.path

theorem imports_lexes {space after : String} (blank : Blank space) (blank' : Blank after)
    {lines : List ImportLine} (spelled : ∀ line ∈ lines, line.Spelled) {rest : List Token}
    {next : List Char} (later : Lexes rest next) :
    Lexes ((imports space lines after).tokens ++ rest) next := by
  have tokens : (imports space lines after).tokens ++ rest = token space .word "import" ::
      token " " .mark "(" :: (Tree.tokensOf (lines.map ImportLine.tree)
        ++ token after .mark ")" :: rest) := by
    simp [imports, tokensOf_append]
  rw [tokens]
  refine lexes_word blank (by decide) (fresh_blank _ _)
    (lexes_bracket blank_space (by simp [brackets]) ?_)
  refine listed_lexes blank' (by simp [brackets]) later ?_ ?_
  · intro line among rest
    have apart := (spelled line among).space
    simp only [ImportLine.tree, ImportLine.trees, ImportLine.path?]
    split
    · exact apart.fresh _ _
    · split
      · exact apart.fresh _ _
      · split
        · exact apart.fresh _ _
        · exact apart.fresh _ _
  · intro line among rest fresh later
    obtain ⟨apart, label, path⟩ := spelled line among
    simp only [ImportLine.tree, ImportLine.trees, ImportLine.path?]
    split
    · exact ⟨stands_quoted apart.blank path _, later⟩
    · split
      · refine ⟨stands_dot apart.blank fun c first => ?_, stands_quoted blank_space path _, later⟩
        obtain rfl : ' ' = c := by simpa [chars_cons, Token.source, token, gap_text] using first
        decide
      · rename_i some dot
        have isName : IsName line.label := (label.resolve_left some).resolve_left dot
        split
        · rename_i blank
          exact ⟨stands_word apart.blank (blank ▸ isName) (fresh_blank _ _),
            stands_quoted blank_space path _, later⟩
        · exact ⟨stands_word apart.blank isName (fresh_blank _ _),
            stands_quoted blank_space path _, later⟩

theorem package_lexes {text : String} (isName : IsName text) {rest : List Token}
    {next : List Char} (fresh : Fresh (chars rest ++ next)) (later : Lexes rest next) :
    Lexes ((package text).tokens ++ rest) next :=
  lexes_word blank_nothing (by decide) (fresh_blank _ _) (lexes_word blank_space isName fresh later)

structure Element.Spelled (element : Element) : Prop where
  space : Apart element.space
  name : IsName element.name
  signature : element.signature.Spelled

namespace Element.Spelled

variable {element : Element} {rest : List Token} {next : List Char}

theorem fresh (spelled : element.Spelled) :
    Fresh (chars (element.tree.tokens ++ rest) ++ next) := by
  simp only [Element.tree, Tree.tokens, Tree.tokensOf, tokens_name, List.cons_append,
    List.nil_append]
  exact spelled.space.fresh _ _

theorem lexes (spelled : element.Spelled) (fresh : Fresh (chars rest ++ next))
    (later : Lexes rest next) : Lexes (element.tree.tokens ++ rest) next := by
  have tokens : element.tree.tokens ++ rest = token element.space .word element.name ::
      (Tree.tokensOf element.signature.trees ++ rest) := by
    simp [Element.tree]
  rw [tokens]
  refine lexes_word spelled.space.blank spelled.name ?_
    (signature_lexes spelled.signature fresh later)
  simp only [Signature.trees, Tree.tokensOf, parameters_tokens]
  exact fresh_mark blank_nothing (by simp [brackets]) _ _

end Element.Spelled

theorem interfaceType_lexes {elements : List Element}
    (spelled : ∀ element ∈ elements, element.Spelled) {rest : List Token} {next : List Char}
    (later : Lexes rest next) : Lexes ((interfaceType elements).tokens ++ rest) next := by
  have tokens : (interfaceType elements).tokens ++ rest = token " " .word "interface" ::
      token " " .mark "\x7b" :: (Tree.tokensOf (elements.map Element.tree)
        ++ token "\n" .mark "\x7d" :: rest) := by
    simp [interfaceType, tokensOf_append]
  rw [tokens]
  exact braced_lexes (by decide) blank_space blank_line later
    (fun element among _ => (spelled element among).fresh)
    fun element among _ fresh later => (spelled element among).lexes fresh later

end InterfaceMocks.Written
