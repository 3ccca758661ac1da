import InterfaceMocks.Proofs.Comments.Pieces
import InterfaceMocks.Proofs.Layout.Relaid

/-!
Reading tokens with fewer comments. The grammar looks at the class and the text of a token and at
whether a line ends before it, so that tokens which differ in their comments only are read in step,
into trees that differ in nothing else. Comments between a `*` and what it points to are looked at
later on, and are told apart from the others here.
-/

namespace InterfaceMocks.Comments

open InterfaceMocks.Syntax InterfaceMocks.Grammar
open InterfaceMocks.Layout (unspaced unspacedToken)
open InterfaceMocks.Written (takesUp input rules_take_nothing source_takes_nothing cut_join)

/-! Tokens. -/

def commentsOf (lead : List Gap) : List String := lead.filterMap Gap.comment?

/-- What stands before a token gives way to something with the same line ends and with no comment
where there was none. -/
structure Lightens (lead lead' : List Gap) : Prop where
  line : lead'.any Gap.endsLine = lead.any Gap.endsLine
  comments : commentsOf lead = [] → commentsOf lead' = []

theorem Lightens.refl (lead : List Gap) : Lightens lead lead := ⟨rfl, fun none => none⟩

theorem Lightens.append {lead lead' more more' : List Gap} (first : Lightens lead lead')
    (second : Lightens more more') : Lightens (lead ++ more) (lead' ++ more') := by
  constructor
  · simp only [List.any_append, first.line, second.line]
  · simp only [commentsOf, List.filterMap_append, List.append_eq_nil_iff]
    exact fun none => ⟨first.comments none.1, second.comments none.2⟩

structure Alike (token token' : Token) : Prop where
  lexeme : token'.lexeme = token.lexeme
  text : token'.text = token.text
  lead : Lightens token.lead token'.lead

theorem Alike.refl (token : Token) : Alike token token := ⟨rfl, rfl, .refl _⟩

theorem Alike.startsLine {token token' : Token} (alike : Alike token token') :
    token'.startsLine = token.startsLine := alike.lead.line

theorem Alike.unspaced {token token' : Token} (alike : Alike token token') :
    unspacedToken token' = unspacedToken token := by
  simp [unspacedToken, alike.lexeme, alike.text]

def endsInStar (text : String) : Bool := text.toList.getLast? = some '*'

/-- Tokens that differ in their comments only, where `starred` says whether the last token before them
ends in `*`. After such a token a comment may be missing only if `covered` holds. -/
inductive Thinned (covered : Prop) : Bool → List Token → List Token → Prop where
  | nil {starred} : Thinned covered starred [] []
  | cons {starred token token' rest rest'} (alike : Alike token token')
      (kept : starred = true → ¬ covered → commentsOf token'.lead = [] → commentsOf token.lead = [])
      (others : Thinned covered (endsInStar token.text) rest rest') :
      Thinned covered starred (token :: rest) (token' :: rest')

namespace Thinned

variable {covered : Prop} {starred : Bool} {tokens tokens' : List Token}

theorem refl (covered : Prop) (starred : Bool) (tokens : List Token) :
    Thinned covered starred tokens tokens := by
  induction tokens generalizing starred with
  | nil => exact .nil
  | cons token rest ih => exact .cons (.refl token) (fun _ _ none => none) (ih _)

/-- Whether the last token of a list ends in `*`, or the last before it if the list is empty. -/
def last (starred : Bool) : List Token → Bool
  | [] => starred
  | token :: rest => last (endsInStar token.text) rest

theorem append {more more' : List Token} (first : Thinned covered starred tokens tokens')
    (second : Thinned covered (last starred tokens) more more') :
    Thinned covered starred (tokens ++ more) (tokens' ++ more') := by
  induction first with
  | nil => exact second
  | cons alike kept _ ih => exact .cons alike kept (ih second)

theorem split {more more' : List Token} (same : tokens.length = tokens'.length)
    (thinned : Thinned covered starred (tokens ++ more) (tokens' ++ more')) :
    Thinned covered starred tokens tokens' ∧ Thinned covered (last starred tokens) more more' := by
  induction tokens generalizing tokens' starred with
  | nil =>
      obtain rfl := List.length_eq_zero_iff.1 same.symm
      exact ⟨.nil, thinned⟩
  | cons token rest ih =>
      cases tokens' with
      | nil => simp at same
      | cons token' rest' =>
          cases thinned with
          | cons alike kept others =>
              obtain ⟨first, second⟩ := ih (by simpa using same) others
              exact ⟨.cons alike kept first, second⟩

/-- Any comments may be missing. -/
theorem weaken (thinned : Thinned covered starred tokens tokens') (starred' : Bool) :
    Thinned True starred' tokens tokens' := by
  induction thinned generalizing starred' with
  | nil => exact .nil
  | cons alike _ _ ih => exact .cons alike (fun _ other => absurd trivial other) (ih _)

theorem length (thinned : Thinned covered starred tokens tokens') : tokens'.length = tokens.length := by
  induction thinned with
  | nil => rfl
  | cons _ _ _ ih => simp [ih]

theorem startsLine (thinned : Thinned covered starred tokens tokens') :
    tokens'.head?.map Token.startsLine = tokens.head?.map Token.startsLine := by
  cases thinned with
  | nil => rfl
  | cons alike _ _ => simp [alike.startsLine]

end Thinned

/-! Reading. -/

section Reading

variable {covered : Prop}

theorem tokens_length {trees trees' : List Tree} (same : trees'.map unspaced = trees.map unspaced) :
    (Tree.tokensOf trees).length = (Tree.tokensOf trees').length := by
  rw [← Layout.unspacedAll_eq, ← Layout.unspacedAll_eq] at same
  have tokens := congrArg (fun trees => (Tree.tokensOf trees).length) same
  simpa [Layout.tokensOf_unspaced] using tokens.symm

/-- Answers in step: the trees differ in their comments only, and so do the tokens of the trees and
what is left, if those that were read do. -/
inductive InStep (covered : Prop) (before before' : List Token) : Reply → Reply → Prop where
  | mismatch : InStep covered before before' .mismatch .mismatch
  | exhausted : InStep covered before before' .exhausted .exhausted
  | done {trees trees' rest rest'} (same : trees'.map unspaced = trees.map unspaced)
      (broken : rest'.broken = rest.broken) (left : Thinned True false rest.tokens rest'.tokens)
      (thinned : ∀ starred, Thinned covered starred before before' →
        Thinned covered starred (Tree.tokensOf trees ++ rest.tokens)
          (Tree.tokensOf trees' ++ rest'.tokens)) :
      InStep covered before before' (.done trees rest) (.done trees' rest')

namespace InStep

variable {before before' : List Token} {reply reply' : Reply}

theorem mono {middle middle' : List Token}
    (implies : ∀ starred, Thinned covered starred before before' →
      Thinned covered starred middle middle')
    (step : InStep covered middle middle' reply reply') :
    InStep covered before before' reply reply' := by
  cases step with
  | mismatch => exact .mismatch
  | exhausted => exact .exhausted
  | done same broken left thinned =>
      exact .done same broken left fun starred given => thinned starred (implies starred given)

theorem branch {found found' : List Tree → Cursor → Reply} {missing missing' : Reply}
    (first : InStep covered before before' reply reply')
    (second : ∀ trees trees' rest rest', trees'.map unspaced = trees.map unspaced →
      rest'.broken = rest.broken → Thinned True false rest.tokens rest'.tokens →
      InStep covered (Tree.tokensOf trees ++ rest.tokens) (Tree.tokensOf trees' ++ rest'.tokens)
        (found trees rest) (found' trees' rest'))
    (third : InStep covered before before' missing missing') :
    InStep covered before before' (reply.branch found missing) (reply'.branch found' missing') := by
  cases first with
  | mismatch => exact third
  | exhausted => exact .exhausted
  | done same broken left thinned => exact (second _ _ _ _ same broken left).mono thinned

theorem andThen {next next' : List Tree → Cursor → Reply}
    (first : InStep covered before before' reply reply')
    (second : ∀ trees trees' rest rest', trees'.map unspaced = trees.map unspaced →
      rest'.broken = rest.broken → Thinned True false rest.tokens rest'.tokens →
      InStep covered (Tree.tokensOf trees ++ rest.tokens) (Tree.tokensOf trees' ++ rest'.tokens)
        (next trees rest) (next' trees' rest')) :
    InStep covered before before' (reply.andThen next) (reply'.andThen next') := by
  rw [Reply.andThen_eq_branch, Reply.andThen_eq_branch]
  exact first.branch second .mismatch

theorem orElse {other other' : Unit → Reply} (first : InStep covered before before' reply reply')
    (second : ∀ u, InStep covered before before' (other u) (other' u)) :
    InStep covered before before' (reply.orElse other) (reply'.orElse other') := by
  rw [Reply.orElse_eq_branch, Reply.orElse_eq_branch]
  exact first.branch (fun _ _ _ _ same broken left => .done same broken left fun _ given => given)
    (second ())

theorem after {trees trees' : List Tree} (same : trees'.map unspaced = trees.map unspaced)
    (later : InStep covered before before' reply reply') :
    InStep covered (Tree.tokensOf trees ++ before) (Tree.tokensOf trees' ++ before')
      (reply.after trees) (reply'.after trees') := by
  cases later with
  | mismatch => exact .mismatch
  | exhausted => exact .exhausted
  | done same' broken left thinned =>
      refine .done (by simp [same, same']) broken left fun starred given => ?_
      obtain ⟨first, second⟩ := given.split (tokens_length same)
      rw [tokensOf_append, tokensOf_append, List.append_assoc, List.append_assoc]
      exact first.append (thinned _ second)

theorem map {f : List Tree → List Tree} (first : InStep covered before before' reply reply')
    (same : ∀ trees trees', trees'.map unspaced = trees.map unspaced →
      (f trees').map unspaced = (f trees).map unspaced)
    (tokens : ∀ trees, Tree.tokensOf (f trees) = Tree.tokensOf trees) :
    InStep covered before before' (reply.map f) (reply'.map f) := by
  rw [Reply.map_eq_branch, Reply.map_eq_branch]
  refine first.branch (fun _ _ _ _ same' broken left => ?_) .mismatch
  refine .done (same _ _ same') broken left fun _ given => ?_
  rwa [tokens, tokens]

end InStep

/-- What is left to read, in step. -/
structure Level (cursor cursor' : Cursor) : Prop where
  broken : cursor'.broken = cursor.broken
  tokens : Thinned True false cursor.tokens cursor'.tokens

theorem Level.done {cursor cursor' : Cursor} (level : Level cursor cursor') {trees trees' : List Tree}
    (same : trees'.map unspaced = trees.map unspaced) :
    InStep covered (Tree.tokensOf trees ++ cursor.tokens) (Tree.tokensOf trees' ++ cursor'.tokens)
      (.done trees cursor) (.done trees' cursor') :=
  .done same level.broken level.tokens fun _ given => given

theorem Level.unread {cursor cursor' : Cursor} (level : Level cursor cursor') :
    InStep covered cursor.tokens cursor'.tokens (.done [] cursor) (.done [] cursor') :=
  level.done (rfl : ([] : List Tree).map unspaced = ([] : List Tree).map unspaced)

theorem endsInStar_drop {text : String} {part : List Char} (longer : part ≠ [])
    {front : List Char} (whole : text.toList = front ++ part) :
    endsInStar (String.ofList part) = endsInStar text := by
  simp [endsInStar, whole, List.getLast?_append, List.getLast?_eq_some_getLast longer]

/-- A shape takes the same of tokens in step. -/
theorem take_thinned (shape : Shape) {starred : Bool} {tokens tokens' : List Token}
    (thinned : Thinned covered starred tokens tokens') :
    (shape.take? tokens = none ∧ shape.take? tokens' = none)
      ∨ ∃ token token' rest rest', shape.take? tokens = some (token, rest)
        ∧ shape.take? tokens' = some (token', rest')
        ∧ Thinned covered starred (token :: rest) (token' :: rest') := by
  cases thinned with
  | nil => exact .inl ⟨rfl, rfl⟩
  | @cons _ token token' rest rest' alike kept others =>
      have whole := Thinned.cons alike kept others
      have here (holds : Prop) [Decidable holds] :
          ((if holds then some (token, rest) else none) = none
            ∧ (if holds then some (token', rest') else none) = none)
          ∨ ∃ a a' r r', (if holds then some (token, rest) else none) = some (a, r)
            ∧ (if holds then some (token', rest') else none) = some (a', r')
            ∧ Thinned covered starred (a :: r) (a' :: r') := by
        by_cases is : holds
        · simp only [is, if_true]
          exact .inr ⟨_, _, _, _, rfl, rfl, whole⟩
        · simp [is]
      cases shape with
      | opening text =>
          simp only [Shape.take?, alike.lexeme, alike.text]
          by_cases begins : token.lexeme = .mark ∧ text.toList.isPrefixOf token.text.toList
          · simp only [begins, and_self, if_true]
            by_cases exact : token.text = text
            · simp only [exact, if_true]
              exact .inr ⟨_, _, _, _, rfl, rfl, whole⟩
            · simp only [exact, if_false]
              refine .inr ⟨_, _, _, _, rfl, rfl, .cons ⟨rfl, rfl, alike.lead⟩ kept ?_⟩
              refine .cons (.refl _) (fun _ _ none => none) ?_
              obtain ⟨left, split⟩ := List.isPrefixOf_iff_prefix.1 begins.2
              have drop : token.text.toList.drop text.length = left := by
                rw [← split, ← String.length_toList, List.drop_left]
              have some : left ≠ [] := by
                rintro rfl
                exact exact (String.toList_injective (by simpa using split.symm))
              rw [drop, endsInStar_drop some split.symm]
              exact others
          · rw [if_neg begins, if_neg begins]
            exact .inl ⟨rfl, rfl⟩
      | sameLine text =>
          simp only [Shape.take?, alike.lexeme, alike.text, alike.startsLine]
          exact here _
      | mark text | keyword text | oneOf words | name reserved | literal lexeme =>
          simp only [Shape.take?, alike.lexeme, alike.text]
          exact here _

theorem Level.after {tokens tokens' : List Token} (thinned : Thinned True false tokens tokens')
    (follows : Bool) : Level (.after tokens follows) (.after tokens' follows) :=
  ⟨by simp only [Cursor.after, thinned.startsLine], thinned⟩

theorem Thinned.tail {token token' : Token} {rest rest' : List Token} {starred : Bool}
    (thinned : Thinned covered starred (token :: rest) (token' :: rest')) :
    Alike token token' ∧ Thinned True false rest rest' := by
  cases thinned with
  | cons alike _ others => exact ⟨alike, others.weaken false⟩

theorem leaf_inStep (kind : Kind) (shape : Shape) (follows : Bool) {cursor cursor' : Cursor}
    (level : Level cursor cursor') :
    InStep covered cursor.tokens cursor'.tokens (cursor.leaf kind shape follows)
      (cursor'.leaf kind shape follows) := by
  unfold Cursor.leaf
  rw [level.broken]
  split
  · exact .mismatch
  · rcases take_thinned shape level.tokens with ⟨none, none'⟩ |
      ⟨token, token', rest, rest', some, some', whole⟩
    · simp only [none, none']
      exact .mismatch
    · simp only [some, some']
      obtain ⟨alike, left⟩ := whole.tail
      refine .done (by simp [unspaced, alike.unspaced]) (Level.after left follows).broken left ?_
      intro starred given
      rcases take_thinned shape given with ⟨none, -⟩ | ⟨_, _, _, _, same, same', thinned⟩
      · simp [none] at some
      · obtain ⟨rfl, rfl⟩ := Prod.mk.inj (Option.some.inj (same.symm.trans some))
        obtain ⟨rfl, rfl⟩ := Prod.mk.inj (Option.some.inj (same'.symm.trans some'))
        simpa [Cursor.after] using thinned

theorem terminator_inStep (follows : Bool) {cursor cursor' : Cursor} (level : Level cursor cursor') :
    InStep covered cursor.tokens cursor'.tokens (cursor.terminator follows)
      (cursor'.terminator follows) := by
  obtain ⟨these, broken⟩ := cursor
  obtain ⟨those, broken'⟩ := cursor'
  obtain ⟨same, tokens⟩ := level
  dsimp only at same tokens
  subst same
  unfold Cursor.terminator
  dsimp only
  split
  · have whole : Level ⟨these, false⟩ ⟨those, false⟩ := ⟨rfl, tokens⟩
    exact whole.unread
  · cases tokens with
    | nil =>
        have whole : Level ⟨[], broken'⟩ ⟨[], broken'⟩ := ⟨rfl, .nil⟩
        exact whole.unread
    | @cons _ token token' rest rest' alike kept others =>
        have isTerminator : Cursor.isTerminator token' = Cursor.isTerminator token := by
          simp only [Cursor.isTerminator, alike.lexeme, alike.text]
        simp only [isTerminator]
        split
        · have left := others.weaken false
          refine .done (by simp [unspaced, alike.unspaced]) (Level.after left follows).broken left ?_
          intro starred given
          simpa [Cursor.after] using given
        · exact .mismatch

theorem unspaced_withRole {tree tree' : Tree} (same : unspaced tree' = unspaced tree) (role : Role) :
    unspaced (tree'.withRole role) = unspaced (tree.withRole role) := by
  cases tree <;> cases tree' <;> simp_all [unspaced, Tree.withRole]

theorem map_withRole {trees trees' : List Tree} (same : trees'.map unspaced = trees.map unspaced)
    (role : Role) :
    (trees'.map (Tree.withRole role)).map unspaced = (trees.map (Tree.withRole role)).map unspaced := by
  induction trees generalizing trees' with
  | nil => simpa using same
  | cons tree rest ih =>
      cases trees' with
      | nil => simp at same
      | cons tree' rest' =>
          simp only [List.map_cons, List.cons.injEq] at same ⊢
          exact ⟨unspaced_withRole same.1 role, ih same.2⟩

/-- What surrounds an expression, in step. -/
structure Agrees (setting setting' : Setting) : Prop where
  follows : setting'.follows = setting.follows
  ends : setting'.ends = setting.ends
  held : setting'.held.map unspaced = setting.held.map unspaced

theorem Agrees.before {setting setting' : Setting} (agrees : Agrees setting setting') (next : Form) :
    Agrees { setting with follows := next.terminatorBefore setting.follows }
      { setting' with follows := next.terminatorBefore setting'.follows } :=
  ⟨by rw [agrees.follows], agrees.ends, agrees.held⟩

theorem Agrees.holding {setting setting' : Setting} (agrees : Agrees setting setting')
    {trees trees' : List Tree} (same : trees'.map unspaced = trees.map unspaced) :
    Agrees { setting with held := trees } { setting' with held := trees' } :=
  ⟨agrees.follows, agrees.ends, same⟩

/-- Looking ahead says the same, and reads nothing. -/
theorem look_inStep {before before' : List Token} {reply reply' : Reply}
    (first : InStep covered before before' reply reply') {cursor cursor' : Cursor}
    (level : Level cursor cursor') :
    InStep covered cursor.tokens cursor'.tokens
        (reply.branch (fun _ _ => .done [] cursor) .mismatch)
        (reply'.branch (fun _ _ => .done [] cursor') .mismatch)
      ∧ InStep covered cursor.tokens cursor'.tokens
        (reply.branch (fun _ _ => .mismatch) (.done [] cursor))
        (reply'.branch (fun _ _ => .mismatch) (.done [] cursor')) := by
  cases first with
  | mismatch => exact ⟨.mismatch, level.unread⟩
  | exhausted => exact ⟨.exhausted, .exhausted⟩
  | done _ _ _ _ => exact ⟨level.unread, .mismatch⟩

/-- Whether it is known of all that is looked ahead for what it takes up. -/
def looks {Rule : Type} : Gram Rule → Bool
  | .empty | .terminator | .rule _ | .joined | .held | .leaf _ _ => true
  | .seq first second | .alt first second | .hold first second => looks first && looks second
  | .many body | .node _ body | .as _ body | .grow body => looks body
  | .ahead body | .absent body => (takesUp body).isSome && looks body

theorem rules_look (name : Rule) : looks (rules name) = true :=
  Rule.forall_of_list (p := fun name => looks (rules name)) (by decide +kernel) name

theorem source_looks : looks Statements.source = true := by decide +kernel

/-- Tokens that differ in their comments only are read in step. -/
theorem read_inStep (covered : Prop) (depth : Nat) {g : Form} {took : Bool}
    (takes : takesUp g = some took) (looking : looks g = true) {setting setting' : Setting}
    (agrees : Agrees setting setting') {cursor cursor' : Cursor} (level : Level cursor cursor') :
    InStep covered (input took setting.held cursor) (input took setting'.held cursor')
      (read rules depth g setting cursor) (read rules depth g setting' cursor') := by
  induction depth generalizing g took setting setting' cursor cursor' with
  | zero => exact .exhausted
  | succ depth ih =>
      -- the two cases of the hypothesis: what is held is not read, or is read first
      have plain {g : Form} (takes : takesUp g = some false) (looking : looks g = true)
          {setting setting' : Setting}
          (agrees : Agrees setting setting') {cursor cursor' : Cursor}
          (level : Level cursor cursor') :
          InStep covered cursor.tokens cursor'.tokens (read rules depth g setting cursor)
            (read rules depth g setting' cursor') := ih takes looking agrees level
      have taking {g : Form} (takes : takesUp g = some true) (looking : looks g = true)
          {setting setting' : Setting}
          (agrees : Agrees setting setting') {cursor cursor' : Cursor}
          (level : Level cursor cursor') :
          InStep covered (Tree.tokensOf setting.held ++ cursor.tokens)
            (Tree.tokensOf setting'.held ++ cursor'.tokens) (read rules depth g setting cursor)
            (read rules depth g setting' cursor') := ih takes looking agrees level
      cases g with
      | empty =>
          obtain rfl : false = took := by simpa [takesUp] using takes
          exact level.unread
      | leaf kind shape =>
          simp only [takesUp, Option.ite_none_right_eq_some, Option.some.injEq] at takes
          obtain ⟨-, rfl⟩ := takes
          simp only [Grammar.read, agrees.follows]
          exact leaf_inStep kind shape _ level
      | terminator =>
          obtain rfl : false = took := by simpa [takesUp] using takes
          simp only [Grammar.read, agrees.follows]
          exact terminator_inStep _ level
      | held =>
          obtain rfl : true = took := by simpa [takesUp] using takes
          exact level.done agrees.held
      | seq first second =>
          simp only [takesUp, Option.ite_none_right_eq_some] at takes
          simp only [looks, Bool.and_eq_true] at looking
          refine (ih takes.2 looking.1 (agrees.before second) level).andThen ?_
          intro trees trees' rest rest' same broken left
          exact (plain takes.1 looking.2 agrees ⟨broken, left⟩).after same
      | alt first second =>
          simp only [takesUp, Option.ite_none_right_eq_some] at takes
          simp only [looks, Bool.and_eq_true] at looking
          exact (ih takes.2 looking.1 agrees level).orElse
            fun _ => ih (takes.1.symm.trans takes.2) looking.2 agrees level
      | many body =>
          have again := takes
          simp only [takesUp, Option.ite_none_right_eq_some, Option.some.injEq] at takes
          obtain ⟨each, rfl⟩ := takes
          rw [read_many, read_many]
          refine (plain each looking (agrees.before _) level).branch ?_ level.unread
          intro trees trees' rest rest' same broken left
          exact (plain again looking agrees ⟨broken, left⟩).after same
      | node kind body =>
          have inside : takesUp body = some took := takes
          refine (ih inside looking agrees level).map ?_ fun trees => by simp
          intro trees trees' same
          simpa [unspaced, Layout.unspacedAll_eq] using same
      | as role body =>
          have inside : takesUp body = some took := takes
          refine (ih inside looking agrees level).map ?_ fun trees => tokensOf_withRole role trees
          intro trees trees' same
          exact map_withRole same role
      | rule name =>
          obtain rfl : false = took := by simpa [takesUp] using takes
          simp only [Grammar.read, agrees.follows]
          exact plain (rules_take_nothing name) (rules_look name) ⟨rfl, rfl, rfl⟩ level
      | hold subject rest =>
          simp only [takesUp, Option.ite_none_right_eq_some] at takes
          simp only [looks, Bool.and_eq_true] at looking
          refine (ih takes.2 looking.1 (agrees.before rest) level).andThen ?_
          intro trees trees' next next' same broken left
          exact taking takes.1 looking.2 (agrees.holding same) ⟨broken, left⟩
      | grow step =>
          have again := takes
          simp only [takesUp, Option.ite_none_right_eq_some, Option.some.injEq] at takes
          obtain ⟨each, rfl⟩ := takes
          rw [read_grow, read_grow]
          refine (taking each looking (agrees.before _) level).branch ?_ (level.done agrees.held)
          intro trees trees' rest rest' same broken left
          exact taking again looking (agrees.holding same) ⟨broken, left⟩
      | ahead body =>
          obtain rfl : false = took := by simpa [takesUp] using takes
          simp only [looks, Bool.and_eq_true, Option.isSome_iff_exists] at looking
          obtain ⟨⟨inner, inside⟩, looking⟩ := looking
          rw [read_ahead, read_ahead]
          exact (look_inStep (ih inside looking agrees level) level).1
      | absent body =>
          obtain rfl : false = took := by simpa [takesUp] using takes
          simp only [looks, Bool.and_eq_true, Option.isSome_iff_exists] at looking
          obtain ⟨⟨inner, inside⟩, looking⟩ := looking
          rw [read_absent, read_absent]
          exact (look_inStep (ih inside looking agrees level) level).2
      | joined =>
          obtain rfl : false = took := by simpa [takesUp] using takes
          have line : cursor'.atLineStart = cursor.atLineStart := by
            simp only [Cursor.atLineStart, level.tokens.startsLine]
          simp only [Grammar.read, agrees.ends, line]
          cases setting.ends && cursor.atLineStart with
          | true => exact .mismatch
          | false => exact level.unread

end Reading

/-! Sources. -/

section Sources

open Lexer

/-- The pieces of a source. A byte order mark at its start is white space. -/
def pieces? (source : String) : Option (List Piece) :=
  match source.toList with
  | [] => some []
  | c :: rest =>
      if c == byteOrderMark then
        (cut rest).map (⟨.blank, String.singleton byteOrderMark⟩ :: ·)
      else cut (c :: rest)

/-- Whether the last token among pieces ends in `*`, or the last before them if they have none. -/
def starBefore (starred : Bool) : List Piece → Bool
  | [] => starred
  | piece :: rest =>
      match piece.sort with
      | .lexeme _ => starBefore (endsInStar piece.text) rest
      | .blank | .comment => starBefore starred rest

theorem tokenize_eq (source : String) : tokenize source = (pieces? source).map (gather []) := by
  unfold tokenize pieces?
  cases source.toList with
  | nil => rfl
  | cons c rest =>
      dsimp only
      split
      · rw [Option.map_map]
        rfl
      · rfl

theorem pieces_unmarked {source : String} {c : Char} {rest : List Char}
    (text : source.toList = c :: rest) (unmarked : c ≠ byteOrderMark) :
    pieces? source = cut (c :: rest) := by
  simp [pieces?, text, unmarked]

theorem pieces_marked {source : String} {rest : List Char}
    (text : source.toList = byteOrderMark :: rest) :
    pieces? source = (cut rest).map (⟨.blank, String.singleton byteOrderMark⟩ :: ·) := by
  simp [pieces?, text]

/-- The pieces of a source with a space for one of its general comments. -/
theorem pieces_swap {source text : String} {inner : List Char} {before after : List Piece}
    (lexed : pieces? source = some (before ++ ⟨.comment, text⟩ :: after))
    (opens : text.toList = '/' :: '*' :: inner) :
    ∃ front left right rest, before = front ++ left ∧ after = right ++ rest
      ∧ (∀ piece ∈ left ++ right, piece.sort = .blank)
      ∧ pieces? (textOf (before ++ ⟨.blank, " "⟩ :: after)) =
        some (front ++ ⟨.blank, textOf (left ++ ⟨.blank, " "⟩ :: right)⟩ :: rest) := by
  cases chars : source.toList with
  | nil => simp [pieces?, chars] at lexed
  | cons c rest =>
      by_cases marked : c = byteOrderMark
      · rw [pieces_marked (by rw [chars, marked])] at lexed
        obtain ⟨pieces, cuts, same⟩ := Option.map_eq_some_iff.1 lexed
        cases before with
        | nil => simp at same
        | cons first before =>
            obtain ⟨rfl, rfl⟩ := List.cons.inj same
            obtain ⟨front, left, right, others, rfl, rfl, blank, swapped⟩ := cut_swap cuts opens
            refine ⟨_ :: front, left, right, others, rfl, rfl, blank, ?_⟩
            have start : (textOf (⟨.blank, String.singleton byteOrderMark⟩ :: (front ++ left)
                ++ ⟨.blank, " "⟩ :: (right ++ others))).toList =
                byteOrderMark :: joined ((front ++ left) ++ ⟨.blank, " "⟩ :: (right ++ others)) := by
              rw [toList_textOf, List.cons_append, joined_cons, String.toList_singleton]
              rfl
            rw [pieces_marked start, swapped]
            rfl
      · rw [pieces_unmarked chars marked] at lexed
        obtain ⟨front, left, right, others, rfl, rfl, blank, swapped⟩ := cut_swap lexed opens
        refine ⟨front, left, right, others, rfl, rfl, blank, ?_⟩
        obtain ⟨d, more, start, unmarked⟩ : ∃ d more, joined ((front ++ left) ++ ⟨.blank, " "⟩
            :: (right ++ others)) = d :: more ∧ d ≠ byteOrderMark := by
          cases pieces : front ++ left with
          | nil => exact ⟨' ', _, rfl, by decide⟩
          | cons first rest =>
              rw [pieces] at lexed
              obtain ⟨d, more, -, text, same, -⟩ := cut_cons lexed
              obtain ⟨rfl, -⟩ := List.cons.inj same
              exact ⟨c, _, by rw [List.cons_append, joined_cons, text]; rfl, marked⟩
        rw [pieces_unmarked (by rw [toList_textOf, start]) unmarked, ← start, swapped]

variable {covered : Prop} {starred : Bool}

theorem gather_thinned {gaps gaps' : List Gap} (lightens : Lightens gaps gaps')
    (kept : starred = true → ¬ covered → commentsOf gaps' = [] → commentsOf gaps = [])
    (pieces : List Piece) :
    Thinned covered starred (gather gaps pieces).1 (gather gaps' pieces).1 := by
  induction pieces generalizing gaps gaps' with
  | nil => exact .nil
  | cons piece rest ih =>
      unfold gather
      split
      · refine ih (lightens.append (.refl _)) ?_
        simpa [commentsOf, Gap.comment?] using kept
      · refine ih (lightens.append (.refl _)) ?_
        simp [commentsOf, Gap.comment?]
      · exact .cons ⟨rfl, rfl, lightens⟩ kept (.refl _ _ _)

theorem gather_blanks (gaps : List Gap) {blanks : List Piece}
    (blank : ∀ piece ∈ blanks, piece.sort = .blank) (pieces : List Piece) :
    gather gaps (blanks ++ pieces) =
      gather (gaps ++ blanks.map fun piece => .blank piece.text) pieces := by
  induction blanks generalizing gaps with
  | nil => simp
  | cons piece rest ih =>
      have later : ∀ other ∈ rest, other.sort = .blank :=
        fun other member => blank other (List.mem_cons_of_mem _ member)
      rw [List.cons_append, gather, blank piece List.mem_cons_self]
      simp only [ih _ later, List.append_assoc, List.map_cons, List.singleton_append]

theorem starBefore_append (first second : List Piece) :
    starBefore starred (first ++ second) = starBefore (starBefore starred first) second := by
  induction first generalizing starred with
  | nil => rfl
  | cons piece rest ih =>
      rw [List.cons_append, starBefore, starBefore]
      split <;> exact ih

theorem starBefore_blanks {blanks : List Piece} (blank : ∀ piece ∈ blanks, piece.sort = .blank) :
    starBefore starred blanks = starred := by
  induction blanks with
  | nil => rfl
  | cons piece rest ih =>
      rw [starBefore, blank piece List.mem_cons_self]
      exact ih fun other member => blank other (List.mem_cons_of_mem _ member)

/-- A blank for a comment and the white space around it. -/
theorem lightens_blank (left right : List Piece) (text : String) :
    Lightens ((left.map fun piece => Gap.blank piece.text) ++ .comment text
        :: right.map fun piece => Gap.blank piece.text)
      [.blank (textOf (left ++ ⟨.blank, " "⟩ :: right))] := by
  have lines (pieces : List Piece) : (pieces.map fun piece => Gap.blank piece.text).any Gap.endsLine =
      (joined pieces).contains '\n' := by
    induction pieces with
    | nil => rfl
    | cons piece rest ih =>
        rw [List.map_cons, List.any_cons, ih, joined_cons]
        simp [Gap.endsLine, List.contains_eq_mem, List.mem_append, Bool.decide_or]
  constructor
  · have space : ('\n' : Char) ≠ ' ' := by decide
    simp only [List.any_append, List.any_cons, lines, List.any_nil, Bool.or_false]
    simp [Gap.endsLine, textOf, List.contains_eq_mem, Bool.decide_or, space]
  · simp [commentsOf, Gap.comment?]

theorem gather_swap {front left right : List Piece}
    (blank : ∀ piece ∈ left ++ right, piece.sort = .blank) (text : String) (rest : List Piece)
    (known : starBefore starred front = true → covered) (gaps : List Gap) :
    Thinned covered starred (gather gaps (front ++ (left ++ ⟨.comment, text⟩ :: (right ++ rest)))).1
      (gather gaps (front ++ ⟨.blank, textOf (left ++ ⟨.blank, " "⟩ :: right)⟩ :: rest)).1 := by
  induction front generalizing gaps starred with
  | nil =>
      have before : ∀ piece ∈ left, piece.sort = .blank :=
        fun piece member => blank piece (List.mem_append_left _ member)
      have after : ∀ piece ∈ right, piece.sort = .blank :=
        fun piece member => blank piece (List.mem_append_right _ member)
      rw [List.nil_append, List.nil_append, gather_blanks _ before, gather, gather]
      dsimp only
      rw [gather_blanks _ after]
      refine gather_thinned ?_ (fun isStarred uncovered => absurd (known isStarred) uncovered) rest
      have lighter := (Lightens.refl gaps).append (lightens_blank left right text)
      simpa using lighter
  | cons piece front ih =>
      rw [starBefore] at known
      rw [List.cons_append, List.cons_append, gather, gather]
      cases sort : piece.sort with
      | blank =>
          simp only [sort] at known ⊢
          exact ih known _
      | comment =>
          simp only [sort] at known ⊢
          exact ih known _
      | lexeme lexeme =>
          simp only [sort] at known ⊢
          exact .cons (.refl _) (fun _ _ none => none) (ih known _)

/-- A source with a space for one of its general comments. Its tokens differ in that comment only. -/
theorem tokenize_swap {source text : String} {inner : List Char} {before after : List Piece}
    (lexed : pieces? source = some (before ++ ⟨.comment, text⟩ :: after))
    (opens : text.toList = '/' :: '*' :: inner) :
    ∃ tokens trailing tokens' trailing', tokenize source = some (tokens, trailing)
      ∧ tokenize (textOf (before ++ ⟨.blank, " "⟩ :: after)) = some (tokens', trailing')
      ∧ Thinned (starBefore false before = true) false tokens tokens' := by
  obtain ⟨front, left, right, rest, rfl, rfl, blank, lexed'⟩ := pieces_swap lexed opens
  refine ⟨_, _, _, _, by rw [tokenize_eq, lexed]; rfl, by rw [tokenize_eq, lexed']; rfl, ?_⟩
  have onlyBlank : ∀ piece ∈ left, piece.sort = .blank :=
    fun piece member => blank piece (List.mem_append_left _ member)
  have same : starBefore false (front ++ left) = starBefore false front := by
    rw [starBefore_append, starBefore_blanks onlyBlank]
  rw [same, List.append_assoc]
  exact gather_swap blank text rest (fun known => known) []

/-- A source that can be read, with a space for one of its general comments, can be read, and its
trees differ in that comment only. -/
theorem parse_swap {source text : String} {inner : List Char} {before after : List Piece}
    (lexed : pieces? source = some (before ++ ⟨.comment, text⟩ :: after))
    (opens : text.toList = '/' :: '*' :: inner) {file : Source}
    (parsed : Source.parse? source = some file) :
    ∃ file', Source.parse? (textOf (before ++ ⟨.blank, " "⟩ :: after)) = some file'
      ∧ file'.trees.map unspaced = file.trees.map unspaced
      ∧ Thinned (starBefore false before = true) false (Tree.tokensOf file.trees)
        (Tree.tokensOf file'.trees) := by
  obtain ⟨tokens, trailing, tokens', trailing', first, second, thinned⟩ := tokenize_swap lexed opens
  have size : tokens'.length = tokens.length := thinned.length
  have level : Level ⟨tokens, false⟩ ⟨tokens', false⟩ := ⟨rfl, thinned.weaken false⟩
  have agrees : Agrees ⟨false, false, []⟩ ⟨false, false, []⟩ := ⟨rfl, rfl, rfl⟩
  have step := read_inStep (starBefore false before = true) (Source.depthFor tokens.length)
    source_takes_nothing source_looks agrees level
  unfold Source.parse? at parsed ⊢
  simp only [first, second, size] at parsed ⊢
  generalize Grammar.read rules (Source.depthFor tokens.length) Statements.source ⟨false, false, []⟩
    ⟨tokens, false⟩ = reply at parsed step
  generalize Grammar.read rules (Source.depthFor tokens.length) Statements.source ⟨false, false, []⟩
    ⟨tokens', false⟩ = reply' at step ⊢
  cases step with
  | mismatch => simp at parsed
  | exhausted => simp at parsed
  | @done trees trees' rest rest' same _ left whole =>
      simp only [Option.ite_none_right_eq_some, Option.some.injEq] at parsed
      obtain ⟨empty, rfl⟩ := parsed
      have none : rest.tokens = [] := List.isEmpty_iff.1 empty
      have none' : rest'.tokens = [] := by
        have size := left.length
        rw [none] at size
        exact List.length_eq_zero_iff.1 size
      refine ⟨⟨trees', trailing'⟩, by simp [none'], same, ?_⟩
      have tokens := whole false thinned
      rwa [none, none', List.append_nil, List.append_nil] at tokens

end Sources

end InterfaceMocks.Comments
