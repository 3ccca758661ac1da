import InterfaceMocks.Proofs.Preservation.Declarations

/-!
Declarations that are laid out are cut into the tokens they were laid out with. What follows a type
never goes on with its last word, and what follows a number is a bracket, a comma or white space:
the dot of a selector is the one mark that does not end it.
-/

namespace InterfaceMocks.Preservation

open InterfaceMocks.Syntax InterfaceMocks.Grammar InterfaceMocks.Text
open InterfaceMocks.Written
open Lexer

/-! Numbers and marks. -/

def enders : List Char := [' ', '\n', ')', ',', '(', ']']

def Halting (next : List Char) : Prop := ∀ c ∈ next.head?, c ∈ enders

theorem Halting.fresh {next : List Char} (halting : Halting next) : Fresh next := by
  intro c first
  have checked : (enders.all fun c => !Identifier.continues c) = true := by decide
  simpa using List.all_eq_true.1 checked c (halting c first)

theorem avoids_enders {c : Char} (ends : c ∈ enders) :
    ∀ p ∈ [Number.int, Number.float, Number.imaginary], p.avoids c = true := by
  have checked : (enders.all fun c =>
      [Number.int, Number.float, Number.imaginary].all fun p => p.avoids c) = true := by
    decide +kernel
  exact List.all_eq_true.1 (List.all_eq_true.1 checked c ends)

theorem stands_int {space text : String} (blank : Blank space) (int : Number.isInt text = true)
    {next : List Char} (halting : Halting next) : Stands (token space .int text) next := by
  have accepts : Number.int.accepts text.toList = true := int
  refine ⟨⟨space, rfl, blank⟩, ?_, .inr halting.fresh⟩
  cases cs : text.toList with
  | nil =>
      rw [cs] at accepts
      exact absurd accepts (by decide)
  | cons c more =>
      rw [cs] at accepts
      have digit := int_startsWith (startsWith_of_accepts accepts)
      refine ⟨c, more, cs, (extent_digit digit []).1, ?_⟩
      have number : numberExtent ((c :: more) ++ next) = some (.lexeme .int, more.length) := by
        refine numberExtent_int accepts next fun p member => ?_
        cases next with
        | nil => rw [List.append_nil]
        | cons d rest => exact Pattern.longest_append (avoids_enders (halting d rfl) p member) _ _
      rw [(extent_digit digit _).2]
      exact number

theorem stands_dots {space : String} (blank : Blank space) (next : List Char) :
    Stands (token space .mark "...") next :=
  ⟨⟨space, rfl, blank⟩, ⟨'.', ['.', '.'], by simp, rfl, rfl⟩, .inl (by simp; decide)⟩

/-! Runs of tokens that are cut back out of their text, where no word goes on after them. -/

def Spells (tokens : List Token) : Prop :=
  ∀ rest next, Fresh (chars rest ++ next) → Lexes rest next → Lexes (tokens ++ rest) next

/-- No word goes on with these tokens, if none goes on with what comes after them. -/
def KeepsFresh (tokens : List Token) : Prop :=
  ∀ rest next, Fresh (chars rest ++ next) → Fresh (chars (tokens ++ rest) ++ next)

theorem blank_tabs (indent : Nat) : Blank (Layout.tabs indent) := by
  simp [Blank, Layout.tabs, isSpace]

theorem apart_lineAt (indent : Nat) : Apart (lineAt indent) where
  blank := by
    have tabs := blank_tabs indent
    simp only [Blank] at tabs
    simp [Blank, lineAt, tabs]
    decide
  some := by simp [lineAt]

theorem apart_column (width : Nat) : Apart (Layout.spaces width ++ " ") where
  blank := by
    simp [Blank, Layout.spaces, isSpace]
  some := by simp

theorem apart_space : Apart " " := ⟨blank_space, by simp⟩

section Runs

variable {first second : List Token} {space text : String}

theorem Spells.append (before : Spells first) (fresh : KeepsFresh second) (after : Spells second) :
    Spells (first ++ second) := by
  intro rest next parted later
  rw [List.append_assoc]
  exact before _ _ (fresh rest next parted) (after rest next parted later)

theorem KeepsFresh.append (before : KeepsFresh first) (after : KeepsFresh second) :
    KeepsFresh (first ++ second) := by
  intro rest next parted
  rw [List.append_assoc]
  exact before _ _ (after rest next parted)

theorem spells_nil : Spells [] := fun _ _ _ later => later

theorem keepsFresh_nil : KeepsFresh [] := fun _ _ fresh => fresh

theorem spells_word (blank : Blank space) (isName : IsName text) (fresh : KeepsFresh second)
    (after : Spells second) : Spells (token space .word text :: second) :=
  fun _ _ parted later =>
    lexes_word blank isName (fresh _ _ parted) (after _ _ parted later)

theorem spells_bracket (blank : Blank space) (bracket : text ∈ brackets) (after : Spells second) :
    Spells (token space .mark text :: second) :=
  fun _ _ parted later => lexes_bracket blank bracket (after _ _ parted later)

theorem keepsFresh_apart (apart : Apart space) {lexeme : Lexeme} (more : List Token) :
    KeepsFresh (token space lexeme text :: more) :=
  fun rest next _ => apart.fresh (more ++ rest) next

theorem keepsFresh_mark (blank : Blank space) (mark : text ∈ "." :: brackets)
    (more : List Token) : KeepsFresh (token space .mark text :: more) :=
  fun rest next _ => fresh_mark blank mark (more ++ rest) next

theorem TypeStart.keepsFresh {tokens : List Token} (start : TypeStart space tokens)
    (apart : Apart space) : KeepsFresh tokens := by
  cases start <;> exact keepsFresh_apart apart _

/-- A dot and the name that it selects. -/
theorem spells_dot (isName : IsName text) (fresh : KeepsFresh second) (after : Spells second) :
    Spells (token "" .mark "." :: token "" .word text :: second) := by
  intro rest next parted later
  refine ⟨stands_dot blank_nothing fun c first => ?_,
    spells_word blank_nothing isName fresh after rest next parted later⟩
  obtain ⟨d, head, opens⟩ := name_head isName (second ++ rest) next
  obtain rfl := Option.some.inj (head.symm.trans first)
  exact (opens_other opens).2

theorem Quote.spells {quote : Quote} (sound : quote.Sound) (blank : Blank space)
    (after : Spells second) :
    Spells (token space (if quote.raw then .raw else .quoted) quote.text :: second) :=
  fun _ _ parted later => ⟨sound.stands _ _ blank, after _ _ parted later⟩

end Runs

/-! Types. -/

section Types

variable {space : String} {indent : Nat} {second : List Token}

theorem Ty.keepsFresh (type : Ty) (role : Role) (apart : Apart space) (indent : Nat) :
    KeepsFresh (type.tree role space indent).tokens := by
  have start := type.start role space indent []
  rw [List.append_nil] at start
  exact start.keepsFresh apart

/-- A type starts with a letter, a star or a bracket. -/
theorem Ty.head (type : Ty) (sound : type.Sound) (role : Role) (indent : Nat) (rest : List Token)
    (next : List Char) :
    ∀ c ∈ (chars ((type.tree role "" indent).tokens ++ rest) ++ next).head?, c ≠ '=' := by
  intro c first
  have word {text : String} {more : List Token} (isName : IsName text)
      (first : c ∈ (chars (token "" .word text :: more) ++ next).head?) : c ≠ '=' := by
    obtain ⟨d, head, opens⟩ := name_head isName more next
    obtain rfl := Option.some.inj (head.symm.trans first)
    exact (opens_other opens).1
  cases type with
  | name text => exact word sound.1 first
  | qualified package text => exact word sound.1 first
  | function parameters result => exact word (by decide : IsName "func") first
  | struct fields => exact word (by decide : IsName "struct") first
  | pointer target =>
      obtain rfl : '*' = c := by simpa [Ty.tree, chars_cons, Token.source, token, gap_text] using first
      decide
  | slice element =>
      obtain rfl : '[' = c := by simpa [Ty.tree, chars_cons, Token.source, token, gap_text] using first
      decide
  | array length element =>
      obtain rfl : '[' = c := by simpa [Ty.tree, chars_cons, Token.source, token, gap_text] using first
      decide

theorem spells_names {kind : Kind} {names : List String} (sound : ∀ text ∈ names, IsName text)
    (fresh : KeepsFresh second) (after : Spells second) :
    Spells (Tree.tokensOf (names.flatMap fun text => [mark "" ",", name kind .name " " text])
      ++ second) := by
  rw [tokensOf_names, ← nameTokens]
  intro rest next parted later
  rw [List.append_assoc]
  exact nameTokens_lexes sound (fresh rest next parted) (after rest next parted later)

theorem keepsFresh_names {kind : Kind} {names : List String} (fresh : KeepsFresh second) :
    KeepsFresh (Tree.tokensOf (names.flatMap fun text => [mark "" ",", name kind .name " " text])
      ++ second) := by
  rw [tokensOf_names, ← nameTokens]
  intro rest next parted
  rw [List.append_assoc]
  exact fresh_nameTokens (fresh rest next parted)

/-- A parameter is spelled as its type is. -/
theorem Label.spells {label : Label} (sound : label.Sound) (blank : Blank space) {type : Ty}
    (typed : ∀ space, Blank space → Spells (type.tree .type space indent).tokens) :
    Spells (label.tree space fun space => type.tree .type space indent).tokens := by
  have apart := type.keepsFresh .type apart_space indent
  have last := typed " " blank_space
  have dots {space : String} (blank : Blank space) :
      Spells (token space .mark "..." :: (type.tree .type "" indent).tokens) :=
    fun rest next parted later =>
      ⟨stands_dots blank _, typed "" blank_nothing rest next parted later⟩
  obtain ⟨variadic, names⟩ := label
  cases variadic with
  | false =>
      cases names with
      | nil => simpa [Label.tree] using typed space blank
      | cons first more =>
          have each := sound.names
          simp only [Label.tree, nameTrees, Tree.tokens, Tree.tokensOf, tokensOf_append,
            List.cons_append, tokens_name, List.append_nil, List.nil_append]
          exact spells_word blank (each first List.mem_cons_self) (keepsFresh_names apart)
            (spells_names (fun text member => each text (List.mem_cons_of_mem _ member)) apart last)
  | true =>
      cases names with
      | nil => simpa [Label.tree] using dots blank
      | cons first more =>
          have each := sound.names
          have after : KeepsFresh (token " " .mark "..." :: (type.tree .type "" indent).tokens) :=
            keepsFresh_apart apart_space _
          simp only [Label.tree, nameTrees, Tree.tokens, Tree.tokensOf, tokensOf_append,
            List.cons_append, tokens_name, tokens_mark, List.append_nil, List.nil_append]
          exact spells_word blank (each first List.mem_cons_self) (keepsFresh_names after)
            (spells_names (fun text member => each text (List.mem_cons_of_mem _ member)) after
              (dots blank_space))

theorem Parameters.keepsFresh_more (parameters : Parameters) (indent : Nat) :
    KeepsFresh (Tree.tokensOf (parameters.more indent)) := by
  cases parameters with
  | nil => exact keepsFresh_nil
  | cons label type rest => exact keepsFresh_mark blank_nothing (by simp [brackets]) _

theorem spells_list {items : List Tree} (blank : Blank space) (role : Role)
    (spelled : Spells (Tree.tokensOf items)) :
    Spells (listTree role space items).tokens := by
  have close : Spells [token "" .mark ")"] :=
    spells_bracket blank_nothing (by simp [brackets]) spells_nil
  simp only [listTree, Tree.tokens, Tree.tokensOf, tokensOf_append, tokens_mark, List.cons_append,
    List.nil_append]
  exact spells_bracket blank (by simp [brackets])
    (spelled.append (keepsFresh_mark blank_nothing (by simp [brackets]) _) close)

theorem Result.keepsFresh (result : Result) (indent : Nat) :
    KeepsFresh (Tree.tokensOf (result.trees indent)) := by
  cases result with
  | none => exact keepsFresh_nil
  | lone type => simpa [Result.trees] using type.keepsFresh .result apart_space indent
  | list parameters => exact keepsFresh_apart apart_space _

theorem spells_signature {parameters : Parameters} {result : Result}
    (listed : Spells (Tree.tokensOf (parameters.trees indent)))
    (resulted : Spells (Tree.tokensOf (result.trees indent))) :
    Spells (Tree.tokensOf (listTree .parameters "" (parameters.trees indent)
      :: result.trees indent)) :=
  (spells_list blank_nothing .parameters listed).append (result.keepsFresh indent) resulted

theorem spells_tag {tag : Option Quote} (sound : ∀ quote ∈ tag, quote.Sound) :
    Spells (Tree.tokensOf (tagTrees tag)) := by
  cases tag with
  | none => exact spells_nil
  | some tag =>
      simp only [tagTrees, Tree.tokensOf, Quote.tokens_tree, List.append_nil]
      exact Quote.spells (sound tag rfl) blank_space spells_nil

theorem keepsFresh_tag (tag : Option Quote) : KeepsFresh (Tree.tokensOf (tagTrees tag)) := by
  cases tag with
  | none => exact keepsFresh_nil
  | some tag =>
      simp only [tagTrees, Tree.tokensOf, Quote.tokens_tree, List.append_nil]
      exact keepsFresh_apart apart_space _

theorem Fields.keepsFresh (fields : Fields) (indent width : Nat) :
    KeepsFresh (Tree.tokensOf (fields.trees indent width)) := by
  match fields with
  | .nil => exact keepsFresh_nil
  | .cons [] type tag rest =>
      have first := type.keepsFresh .type (apart_lineAt indent) indent
      have others : KeepsFresh (Tree.tokensOf (tagTrees tag)
          ++ Tree.tokensOf (rest.trees indent width)) :=
        (keepsFresh_tag tag).append (rest.keepsFresh indent width)
      simpa [Fields.trees, fieldTree, tokensOf_append] using first.append others
  | .cons (first :: more) type tag rest => exact keepsFresh_apart (apart_lineAt indent) _

theorem spells_struct {fields : Fields} (blank : Blank space) (role : Role)
    (spelled : Spells (Tree.tokensOf (fields.trees (indent + 1) fields.width))) :
    Spells (structTree role space indent (fields.trees (indent + 1) fields.width)).tokens := by
  have close (space : String) (blank : Blank space) : Spells [token space .mark "\x7d"] :=
    spells_bracket blank (by simp [brackets]) spells_nil
  by_cases none : fields.trees (indent + 1) fields.width = []
  · simp only [structTree, none, List.isEmpty_nil, if_true, Tree.tokens, Tree.tokensOf,
      tokens_keyword, tokens_mark, List.cons_append, List.nil_append]
    exact spells_word blank (by decide) (keepsFresh_mark blank_nothing (by simp [brackets]) _)
      (spells_bracket blank_nothing (by simp [brackets]) (close "" blank_nothing))
  · have some : (fields.trees (indent + 1) fields.width).isEmpty = false := by simpa using none
    have blank' := (apart_lineAt indent).blank
    simp only [structTree, some, Bool.false_eq_true, if_false, Tree.tokens, Tree.tokensOf,
      tokensOf_append, tokens_keyword, tokens_mark, List.cons_append, List.nil_append,
      List.append_nil]
    exact spells_word blank (by decide) (keepsFresh_apart apart_space _)
      (spells_bracket blank_space (by simp [brackets]) (spelled.append
        (keepsFresh_mark blank' (by simp [brackets]) _) (close _ blank')))

theorem Ty.Embeds.spells {type : Ty} (embeds : type.Embeds) (role : Role) (blank : Blank space)
    (indent : Nat) : Spells (type.tree role space indent).tokens := by
  cases type with
  | name text => exact spells_word blank embeds keepsFresh_nil spells_nil
  | qualified package text =>
      exact spells_word blank embeds.1 (keepsFresh_mark blank_nothing (by simp) _)
        (spells_dot embeds.2 keepsFresh_nil spells_nil)
  | _ => exact embeds.elim

end Types

mutual

theorem Ty.spells (type : Ty) (sound : type.Sound) (role : Role) (space : String)
    (blank : Blank space) (indent : Nat) : Spells (type.tree role space indent).tokens := by
  match type, sound with
  | .name text, sound => exact spells_word blank sound.1 keepsFresh_nil spells_nil
  | .qualified package text, sound =>
      exact spells_word blank sound.1 (keepsFresh_mark blank_nothing (by simp) _)
        (spells_dot sound.2.2 keepsFresh_nil spells_nil)
  | .pointer target, sound =>
      have inner := target.spells sound .plain "" blank_nothing indent
      simp only [Ty.tree, Tree.tokens, Tree.tokensOf, tokens_mark, List.cons_append,
        List.nil_append, List.append_nil]
      exact fun rest next parted later =>
        ⟨stands_beforeEquals blank (by simp) (target.head sound .plain indent rest next), inner rest next parted later⟩
  | .slice element, sound =>
      have inner := element.spells sound .element "" blank_nothing indent
      simp only [Ty.tree, Tree.tokens, Tree.tokensOf, tokens_mark, List.cons_append,
        List.nil_append, List.append_nil]
      exact spells_bracket blank (by simp [brackets])
        (spells_bracket blank_nothing (by simp [brackets]) inner)
  | .array length element, sound =>
      have inner := element.spells sound.2 .element "" blank_nothing indent
      simp only [Ty.tree, Tree.tokens, Tree.tokensOf, tokens_mark, List.cons_append,
        List.nil_append, List.append_nil]
      refine spells_bracket blank (by simp [brackets]) fun rest next parted later =>
        ⟨stands_int blank_nothing sound.1 ?_,
          spells_bracket blank_nothing (by simp [brackets]) inner rest next parted later⟩
      intro c first
      obtain rfl : ']' = c := by
        simpa [chars_cons, Token.source, token, gap_text] using first
      decide
  | .function parameters result, sound =>
      simp only [Ty.tree, Tree.tokens, Tree.tokensOf, tokens_keyword, List.cons_append,
        List.nil_append]
      exact spells_word blank (by decide) (keepsFresh_mark blank_nothing (by simp [brackets]) _)
        (spells_signature (parameters.spells sound.1 indent) (result.spells sound.2 indent))
  | .struct fields, sound => exact spells_struct blank role (fields.spells sound _ _)

theorem Parameters.spells (parameters : Parameters) (sound : parameters.Sound) (indent : Nat) :
    Spells (Tree.tokensOf (parameters.trees indent)) := by
  match parameters, sound with
  | .nil, _ => exact spells_nil
  | .cons label type rest, sound =>
      have first := Label.spells sound.1 blank_nothing fun space blank =>
        type.spells sound.2.1 .type space blank indent
      simpa [Parameters.trees] using
        first.append (rest.keepsFresh_more indent) (rest.spellsMore sound.2.2.2 indent)

theorem Parameters.spellsMore (parameters : Parameters) (sound : parameters.Sound) (indent : Nat) :
    Spells (Tree.tokensOf (parameters.more indent)) := by
  match parameters, sound with
  | .nil, _ => exact spells_nil
  | .cons label type rest, sound =>
      have first := Label.spells sound.1 blank_space fun space blank =>
        type.spells sound.2.1 .type space blank indent
      have later := first.append (rest.keepsFresh_more indent) (rest.spellsMore sound.2.2.2 indent)
      simpa [Parameters.more] using
        spells_bracket blank_nothing (by simp [brackets] : "," ∈ brackets) later

theorem Result.spells (result : Result) (sound : result.Sound) (indent : Nat) :
    Spells (Tree.tokensOf (result.trees indent)) := by
  match result, sound with
  | .none, _ => exact spells_nil
  | .lone type, sound =>
      simpa [Result.trees] using type.spells sound .result " " blank_space indent
  | .list parameters, sound =>
      simpa [Result.trees] using
        spells_list blank_space .result (parameters.spells sound.1 indent)

theorem Fields.spells (fields : Fields) (sound : fields.Sound) (indent width : Nat) :
    Spells (Tree.tokensOf (fields.trees indent width)) := by
  match fields, sound with
  | .nil, _ => exact spells_nil
  | .cons [] type tag rest, sound =>
      have last := (spells_tag sound.2.1).append (rest.keepsFresh indent width)
        (rest.spells sound.2.2 indent width)
      have fresh := (keepsFresh_tag tag).append (rest.keepsFresh indent width)
      have whole := (sound.1.spells .type (apart_lineAt indent).blank indent).append fresh last
      simpa [Fields.trees, fieldTree, tokensOf_append] using whole
  | .cons (first :: more) type tag rest, sound =>
      have each := sound.1
      have last := (spells_tag sound.2.2.1).append (rest.keepsFresh indent width)
        (rest.spells sound.2.2.2 indent width)
      have fresh := (keepsFresh_tag tag).append (rest.keepsFresh indent width)
      have column := apart_column (width - (", ".intercalate (first :: more)).length)
      have typed := (type.spells sound.2.1 .type _ column.blank indent).append fresh last
      have parted := (type.keepsFresh .type column indent).append fresh
      have whole := spells_word (apart_lineAt indent).blank (each first List.mem_cons_self)
        (@keepsFresh_names _ .fieldIdentifier more parted)
        (spells_names (fun text member => each text (List.mem_cons_of_mem _ member)) parted typed)
      simpa [Fields.trees, fieldTree, nameTrees, tokensOf_append] using whole

end

/-! Expressions. -/

/-- What may come after an expression: a number needs more than other words do. -/
def Expr.Parts (expr : Expr) (next : List Char) : Prop :=
  Fresh next ∧ (expr.isInt = true → Halting next)

theorem Halting.parts {next : List Char} (halting : Halting next) (expr : Expr) :
    expr.Parts next := ⟨halting.fresh, fun _ => halting⟩

theorem halting_mark {text : String} (listed : text ∈ [",", ")", "("]) (rest : List Token)
    (next : List Char) : Halting (chars (token "" .mark text :: rest) ++ next) := by
  intro c first
  simp only [List.mem_cons, List.not_mem_nil, or_false] at listed
  rcases listed with rfl | rfl | rfl <;>
  · obtain rfl : _ = c := by
      simpa [chars_cons, Token.source, token, gap_text] using first
    decide

theorem Arguments.halting_more (arguments : Arguments) {rest : List Token} {next : List Char}
    (halting : Halting (chars rest ++ next)) :
    Halting (chars (Tree.tokensOf arguments.more ++ rest) ++ next) := by
  cases arguments with
  | nil => exact halting
  | cons first others => exact halting_mark (by simp) _ _

mutual

theorem Expr.lexes (expr : Expr) (sound : expr.Sound) (space : String) (blank : Blank space)
    (rest : List Token) (next : List Char) (parts : expr.Parts (chars rest ++ next))
    (later : Lexes rest next) : Lexes ((expr.tree .plain space).tokens ++ rest) next := by
  match expr, sound, parts with
  | .name text, sound, parts => exact lexes_word blank sound.1 parts.1 later
  | .int text, sound, parts => exact ⟨stands_int blank sound (parts.2 rfl), later⟩
  | .selector operand field, sound, parts =>
      obtain ⟨inner, notInt, isName⟩ := sound
      rw [selector_tokens]
      refine operand.lexes inner space blank _ next ⟨fresh_mark blank_nothing (by simp) _ _, ?_⟩
        (spells_dot isName keepsFresh_nil spells_nil rest next parts.1 later)
      simp [notInt]
  | .paren inner, sound, _ =>
      rw [paren_tokens]
      exact lexes_bracket blank (by simp [brackets]) (inner.lexes sound "" blank_nothing _ next
        ((halting_mark (by simp) rest next).parts inner)
        (lexes_bracket blank_nothing (by simp [brackets]) later))
  | .call function arguments, sound, _ =>
      rw [call_tokens]
      exact function.lexes sound.1 space blank _ next ((halting_mark (by simp) _ next).parts function)
        (lexes_bracket blank_nothing (by simp [brackets]) (arguments.lexes sound.2.1 "" blank_nothing
          _ next (halting_mark (by simp) rest next)
          (lexes_bracket blank_nothing (by simp [brackets]) later)))
  | .allocation word type arguments, sound, _ =>
      have isName : IsName word := by
        have listed := sound.1
        simp only [allocators, List.mem_cons, List.not_mem_nil, or_false] at listed
        rcases listed with rfl | rfl <;> decide
      have closing := halting_mark (by simp : ")" ∈ [",", ")", "("]) rest next
      rw [allocation_tokens]
      refine lexes_word blank isName (fresh_mark blank_nothing (by simp [brackets]) _ _)
        (lexes_bracket blank_nothing (by simp [brackets]) ?_)
      exact lexes_word blank_nothing sound.2.1 (arguments.halting_more closing).fresh
        (arguments.lexesMore sound.2.2.2 _ next closing
          (lexes_bracket blank_nothing (by simp [brackets]) later))

theorem Arguments.lexes (arguments : Arguments) (sound : arguments.Sound) (space : String)
    (blank : Blank space) (rest : List Token) (next : List Char)
    (halting : Halting (chars rest ++ next)) (later : Lexes rest next) :
    Lexes (Tree.tokensOf (arguments.trees space) ++ rest) next := by
  match arguments, sound with
  | .nil, _ => exact later
  | .cons first others, sound =>
      have here := first.lexes sound.1 space blank _ next ((others.halting_more halting).parts first)
        (others.lexesMore sound.2 rest next halting later)
      simpa [Arguments.trees] using here

theorem Arguments.lexesMore (arguments : Arguments) (sound : arguments.Sound) (rest : List Token)
    (next : List Char) (halting : Halting (chars rest ++ next)) (later : Lexes rest next) :
    Lexes (Tree.tokensOf arguments.more ++ rest) next := by
  match arguments, sound with
  | .nil, _ => exact later
  | .cons first others, sound =>
      have here := first.lexes sound.1 " " blank_space _ next
        ((others.halting_more halting).parts first) (others.lexesMore sound.2 rest next halting later)
      simpa [Arguments.more] using
        lexes_bracket blank_nothing (by simp [brackets] : "," ∈ brackets) here

end

/-! Statements. -/

theorem lineAt_zero : lineAt 0 = "\n" := by decide

theorem halting_line (indent : Nat) {lexeme : Lexeme} {text : String} (rest : List Token)
    (next : List Char) : Halting (chars (token (lineAt indent) lexeme text :: rest) ++ next) := by
  intro c first
  obtain rfl : '\n' = c := by
    simpa [chars_cons, Token.source, token, gap_text, lineAt] using first
  decide

section Statements

variable {rest : List Token} {next : List Char}

theorem Expr.keepsFresh {expr : Expr} (sound : expr.Sound) {space : String} (apart : Apart space) :
    KeepsFresh (expr.tree .plain space).tokens := by
  have start := expr.start sound space []
  rw [List.append_nil] at start
  generalize (expr.tree .plain space).tokens = tokens at start
  cases start <;> exact keepsFresh_apart apart _

theorem Statement.lexes {statement : Statement} (sound : statement.Sound) {space : String}
    (blank : Blank space) (halting : Halting (chars rest ++ next)) (later : Lexes rest next) :
    Lexes ((statement.tree space).tokens ++ rest) next := by
  match statement, sound with
  | .expression value, sound =>
      simpa [Statement.tree] using value.lexes sound.1 space blank rest next (halting.parts value) later
  | .return .nil, _ =>
      simpa [Statement.tree] using lexes_word blank (by decide : IsName "return") halting.fresh later
  | .return (.cons first others), sound =>
      have values := (Arguments.cons first others).lexes sound " " blank_space rest next halting later
      have fresh := Expr.keepsFresh sound.1 apart_space
        (Tree.tokensOf others.more ++ rest) next (others.halting_more halting).fresh
      have whole := lexes_word blank (by decide : IsName "return") fresh
        (by simpa [Arguments.trees] using values)
      simpa [Statement.tree, Arguments.trees] using whole

theorem Statement.halting {statement : Statement} (sound : statement.Sound) (indent : Nat)
    (rest : List Token) (next : List Char) :
    Halting (chars ((statement.tree (lineAt indent)).tokens ++ rest) ++ next) := by
  match statement, sound with
  | .expression value, sound =>
      have start := value.start sound.1 (lineAt indent) rest
      simp only [Statement.tree, Tree.tokens, Tree.tokensOf, List.append_nil]
      generalize (value.tree .plain (lineAt indent)).tokens ++ rest = tokens at start
      cases start <;> exact halting_line indent _ _
  | .return .nil, _ => exact halting_line indent _ _
  | .return (.cons first others), _ => exact halting_line indent _ _

theorem statements_lex {statements : List Statement} (sound : ∀ one ∈ statements, one.Sound)
    (halting : Halting (chars rest ++ next)) (later : Lexes rest next) :
    Halting (chars (Tree.tokensOf (statements.map (Statement.tree (lineAt 1))) ++ rest) ++ next)
      ∧ Lexes (Tree.tokensOf (statements.map (Statement.tree (lineAt 1))) ++ rest) next := by
  induction statements with
  | nil => exact ⟨halting, later⟩
  | cons statement statements ih =>
      have here := sound statement List.mem_cons_self
      obtain ⟨halting', later'⟩ := ih fun other member => sound other (List.mem_cons_of_mem _ member)
      simp only [List.map_cons, Tree.tokensOf, List.append_assoc]
      exact ⟨Statement.halting here 1 _ next,
        Statement.lexes here (apart_lineAt 1).blank halting' later'⟩

theorem spells_body {statements : List Statement} (sound : ∀ one ∈ statements, one.Sound) :
    Spells (bodyTree statements).tokens := by
  intro rest next parted later
  have close : Lexes (token "\n" .mark "\x7d" :: rest) next :=
    lexes_bracket blank_line (by simp [brackets]) later
  have halting : Halting (chars (token "\n" .mark "\x7d" :: rest) ++ next) := by
    rw [← lineAt_zero]
    exact halting_line 0 _ _
  have inside := (statements_lex sound halting close).2
  simpa [bodyTree, tokensOf_append] using
    lexes_bracket blank_space (by simp [brackets] : "\x7b" ∈ brackets) inside

end Statements

/-! Declarations. -/

section Declarations

variable {space : String} {indent : Nat}

theorem Import.keepsFresh (spec : Import) (apart : Apart space) :
    KeepsFresh (spec.tree space).tokens := by
  obtain ⟨lexeme, text, rest, same, -⟩ := spec.start space
  rw [same]
  exact keepsFresh_apart apart rest

theorem Import.spells {spec : Import} (sound : spec.Sound) (blank : Blank space) :
    Spells (spec.tree space).tokens := by
  obtain ⟨label, path⟩ := spec
  have last (space : String) (blank : Blank space) :
      Spells [token space (if path.raw then .raw else .quoted) path.text] :=
    Quote.spells sound.path blank spells_nil
  have fresh : KeepsFresh [token " " (if path.raw then .raw else .quoted) path.text] :=
    keepsFresh_apart apart_space []
  cases label with
  | none => simpa [Import.tree, Quote.tokens_tree] using last space blank
  | some label =>
      have labeled := sound.name label rfl
      simp only [Import.tree, Tree.tokens, Tree.tokensOf, Quote.tokens_tree, List.append_nil]
      cases label with
      | dot =>
          refine fun rest next parted later =>
            ⟨stands_dot blank fun c first => ?_, last " " blank_space rest next parted later⟩
          obtain rfl : ' ' = c := by simpa [chars_cons, Token.source, token, gap_text] using first
          decide
      | blank => exact spells_word blank (by decide) fresh (last " " blank_space)
      | word text => exact spells_word blank labeled.1 fresh (last " " blank_space)

/-- Lines that are spelled each are spelled one after the other. -/
theorem spells_lines {trees : List Tree} (each : ∀ tree ∈ trees, Spells tree.tokens)
    (fresh : ∀ tree ∈ trees, KeepsFresh tree.tokens) :
    KeepsFresh (Tree.tokensOf trees) ∧ Spells (Tree.tokensOf trees) := by
  induction trees with
  | nil => exact ⟨keepsFresh_nil, spells_nil⟩
  | cons tree trees ih =>
      obtain ⟨parted, spelled⟩ := ih (fun other member => each other (List.mem_cons_of_mem _ member))
        fun other member => fresh other (List.mem_cons_of_mem _ member)
      exact ⟨(fresh tree List.mem_cons_self).append parted,
        (each tree List.mem_cons_self).append parted spelled⟩

/-- Lines in parentheses. -/
theorem spells_group {trees : List Tree} {last : String} (blank : Blank last)
    (each : ∀ tree ∈ trees, Spells tree.tokens) (fresh : ∀ tree ∈ trees, KeepsFresh tree.tokens) :
    Spells (token " " .mark "(" :: (Tree.tokensOf trees ++ [token last .mark ")"])) :=
  spells_bracket blank_space (by simp [brackets]) ((spells_lines each fresh).2.append
    (keepsFresh_mark blank (by simp [brackets]) _)
    (spells_bracket blank (by simp [brackets]) spells_nil))

theorem TypeSpec.spells {spec : TypeSpec} (sound : spec.Sound) (blank : Blank space) :
    Spells (spec.tree space indent).tokens := by
  obtain ⟨isAlias, name, target⟩ := spec
  have typed := target.spells sound.target .type " " blank_space indent
  have fresh := target.keepsFresh .type apart_space indent
  cases isAlias with
  | false => simpa [TypeSpec.tree] using spells_word blank sound.name fresh typed
  | true =>
      have equals : Spells (token " " .mark "=" :: (target.tree .type " " indent).tokens) := by
        refine fun rest next parted later =>
          ⟨stands_beforeEquals blank_space (by simp) fun c first => ?_, typed rest next parted later⟩
        have start := target.start .type " " indent rest
        change c ∈ (chars ((target.tree .type " " indent).tokens ++ rest) ++ next).head? at first
        generalize (target.tree .type " " indent).tokens ++ rest = tokens at start first
        obtain rfl : ' ' = c := by
          cases start <;> simpa [chars_cons, Token.source, token, gap_text] using first
        decide
      simpa [TypeSpec.tree] using
        spells_word blank sound.name (keepsFresh_apart apart_space _) equals

theorem TypeSpec.keepsFresh (spec : TypeSpec) (apart : Apart space) :
    KeepsFresh (spec.tree space indent).tokens := by
  obtain ⟨rest, same⟩ := spec.starts space indent
  rw [same]
  exact keepsFresh_apart apart rest

theorem spells_function {parameters : Parameters} {result : Result}
    {body : Option (List Statement)} (listed : parameters.Sound) (resulted : result.Sound)
    (sound : ∀ statements ∈ body, ∀ one ∈ statements, one.Sound) :
    Spells (Tree.tokensOf (listTree .parameters "" (parameters.trees 0)
      :: (result.trees 0 ++ body.toList.map bodyTree))) := by
  have signature := spells_signature (parameters.spells listed 0) (result.spells resulted 0)
  cases body with
  | none => simpa using signature
  | some statements =>
      have fresh : KeepsFresh (bodyTree statements).tokens := keepsFresh_apart apart_space _
      have whole := signature.append fresh (spells_body (sound statements rfl))
      simpa [tokensOf_append] using whole

theorem Declaration.spells {declaration : Declaration} (sound : declaration.Sound)
    (blank : Blank space) : Spells (declaration.tree space).tokens := by
  match declaration, sound with
  | .package text, sound =>
      exact spells_word blank (by decide) (keepsFresh_apart apart_space _)
        (spells_word blank_space sound keepsFresh_nil spells_nil)
  | .import spec, sound =>
      simpa [Declaration.tree] using spells_word blank (by decide : IsName "import")
        (spec.keepsFresh apart_space) (Import.spells sound blank_space)
  | .imports specs, sound =>
      have closing : Blank (if specs.isEmpty then "" else "\n") := by split <;> decide
      have each : ∀ tree ∈ specs.map (Import.tree (lineAt 1)), Spells tree.tokens := by
        intro tree member
        obtain ⟨spec, among, rfl⟩ := List.mem_map.1 member
        exact Import.spells (sound spec among) (apart_lineAt 1).blank
      have fresh : ∀ tree ∈ specs.map (Import.tree (lineAt 1)), KeepsFresh tree.tokens := by
        intro tree member
        obtain ⟨spec, -, rfl⟩ := List.mem_map.1 member
        exact spec.keepsFresh (apart_lineAt 1)
      have whole := spells_word blank (by decide : IsName "import")
        (keepsFresh_apart apart_space _) (spells_group closing each fresh)
      simpa [Declaration.tree, tokensOf_append] using whole
  | .type spec, sound =>
      simpa [Declaration.tree] using spells_word blank (by decide : IsName "type")
        (spec.keepsFresh apart_space) (TypeSpec.spells sound blank_space)
  | .types specs, sound =>
      have each : ∀ tree ∈ specs.map (TypeSpec.tree (lineAt 1) 1), Spells tree.tokens := by
        intro tree member
        obtain ⟨spec, among, rfl⟩ := List.mem_map.1 member
        exact TypeSpec.spells (sound spec among) (apart_lineAt 1).blank
      have fresh : ∀ tree ∈ specs.map (TypeSpec.tree (lineAt 1) 1), KeepsFresh tree.tokens := by
        intro tree member
        obtain ⟨spec, -, rfl⟩ := List.mem_map.1 member
        exact spec.keepsFresh (apart_lineAt 1)
      have whole := spells_word blank (by decide : IsName "type")
        (keepsFresh_apart apart_space _) (spells_group blank_line each fresh)
      simpa [Declaration.tree, tokensOf_append] using whole
  | .function none text parameters result body, sound =>
      obtain ⟨isName, listed, resulted, -, bodied⟩ := sound
      have rest := spells_word blank_space isName (keepsFresh_mark blank_nothing
        (by simp [brackets]) _) (spells_function listed resulted bodied)
      exact spells_word blank (by decide) (keepsFresh_apart apart_space _) rest
  | .function (some receiver) text parameters result body, sound =>
      obtain ⟨isName, listed, resulted, received, bodied⟩ := sound
      have rest := spells_word blank_space isName (keepsFresh_mark blank_nothing
        (by simp [brackets]) _) (spells_function listed resulted bodied)
      have first := spells_list blank_space .receiver (receiver.spells (received receiver rfl).1 0)
      exact spells_word blank (by decide) (keepsFresh_apart apart_space _)
        (first.append (keepsFresh_apart apart_space _) rest)

end Declarations

end InterfaceMocks.Preservation
