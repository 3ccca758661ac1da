import InterfaceMocks.Proofs.Preservation.Declarations
import InterfaceMocks.Proofs.Preservation.ExpressionTrees
import InterfaceMocks.Proofs.Written.Lossless

/-!
How the declarations of a source are built, with the statements in them. An expression is read as a
statement only where its first word is no keyword of a statement.
-/

namespace InterfaceMocks.Preservation

open InterfaceMocks.Syntax InterfaceMocks.Grammar
open InterfaceMocks.Written (IsName reads_recut)

/-! Statements. -/

def statementKinds : List Kind := [.mark, .returnStatement, .expressionStatement]

def StartsFree (tree : Tree) : Prop :=
  ∀ token ∈ tree.tokens.head?, token.lexeme = .word → token.text ∉ statementWords

inductive StatementForm : Tree → Prop where
  | other {tree} (foreign : tree.kind ∉ statementKinds) : StatementForm tree
  | returnNothing {lead} :
      StatementForm (.node .returnStatement .plain [.leaf .mark .plain ⟨lead, .word, "return"⟩])
  | return {lead first items trees} (joined : Joined (first :: items) trees)
      (forms : ∀ item ∈ first :: items, ExprForm item) :
      StatementForm (.node .returnStatement .plain
        [.leaf .mark .plain ⟨lead, .word, "return"⟩, .node .expressionList .plain trees])
  | expression {value} (form : ExprForm value) (free : StartsFree value) :
      StatementForm (.node .expressionStatement .plain [value])

section Statements

variable {held trees : List Tree} {cursor rest : Cursor}

theorem given_expressionList (given : Given held Expressions.list trees) :
    ∃ first items inner, trees = [.node .expressionList .plain inner]
      ∧ Joined (first :: items) inner ∧ ∀ item ∈ first :: items, ExprForm item := by
  obtain ⟨children, separated, rfl⟩ := given_node given
  obtain ⟨firsts, more, one, many, rfl⟩ := given_seq separated
  have value {trees : List Tree} (given : Given held (Expressions.expression .plain) trees) :=
    given_operation (given_rule given)
  obtain ⟨first, rfl, form⟩ := value one
  obtain ⟨items, joined, forms⟩ := joined_of_many first many value
  exact ⟨first, items, _, rfl, joined, List.forall_mem_cons.2 ⟨form, forms⟩⟩

theorem given_return (given : Given held (returnForm .block) trees) :
    ∃ tree, trees = [tree] ∧ StatementForm tree := by
  obtain ⟨children, inside, rfl⟩ := given_node given
  obtain ⟨words, lists, word, list, rfl⟩ := given_seq inside
  obtain ⟨lead, rfl⟩ := given_keyword word
  rcases given_optional list with some | rfl
  · obtain ⟨quiet, lists, absent, values, rfl⟩ := given_seq some
    obtain rfl := derives_absent.1 absent.derives
    obtain ⟨first, items, inner, rfl, joined, forms⟩ := given_expressionList values
    exact ⟨_, rfl, .return joined forms⟩
  · exact ⟨_, rfl, .returnNothing⟩

/-- The first token of what is read is the first that was to be read, unless it is a mark. -/
theorem reading_front {name : Rule} {setting : Setting} {tree : Tree}
    (found : reading rules (.rule name) setting cursor = .done [tree] rest) :
    ∀ token ∈ tree.tokens.head?, token ∈ cursor.tokens.head? ∨ token.lexeme = .mark := by
  have recut := reads_recut (reads_iff.2 found) rfl
  intro token first
  refine recut.front token ?_
  simp_all [Tree.tokensOf]

def plainStatement : Form :=
  .seq (.absent (.leaf .mark (.oneOf statementWords))) (Statements.simple .leading .plain .plain)

theorem reading_plainStatement {setting : Setting} (lexed : ∀ token ∈ cursor.tokens, Lexed token)
    (found : reading rules plainStatement setting cursor = .done trees rest) :
    ∃ tree, trees = [tree] ∧ StatementForm tree := by
  obtain ⟨quiet, start, statements, absent, simple, rfl⟩ := reading_seq_done.1 found
  obtain ⟨none, rfl, rfl⟩ := reading_absent_done.1 absent
  rw [Statements.simple, reading_hold, Reply.andThen_eq_done] at simple
  obtain ⟨subject, middle, expression, simple⟩ := simple
  obtain ⟨value, rfl, form⟩ := given_operation (given_rule ⟨_, _, _, rfl, lexed, expression⟩)
  have later := (reading_derived expression lexed).2
  obtain ⟨g, among, this⟩ := given_choice (by simp) ⟨_, _, _, rfl, later, simple⟩
  simp only [List.mem_cons, List.not_mem_nil, or_false] at among
  rcases among with rfl | rfl | rfl | rfl | rfl | rfl
  · obtain ⟨tree, rfl, foreign⟩ := @given_avoids _ _ statementKinds _ rfl this
    exact ⟨tree, rfl, .other foreign⟩
  · obtain ⟨tree, rfl, foreign⟩ := @given_avoids _ _ statementKinds _ rfl this
    exact ⟨tree, rfl, .other foreign⟩
  · obtain ⟨tree, rfl, foreign⟩ := @given_avoids _ _ statementKinds _ rfl this
    exact ⟨tree, rfl, .other foreign⟩
  · obtain ⟨tree, rfl, foreign⟩ := @given_avoids _ _ statementKinds _ rfl this
    exact ⟨tree, rfl, .other foreign⟩
  · obtain ⟨tree, rfl, foreign⟩ := @given_avoids _ _ statementKinds _ rfl this
    exact ⟨tree, rfl, .other foreign⟩
  · obtain ⟨nodes, nothing, node, colon, rfl⟩ := given_seq this
    obtain rfl := derives_absent.1 colon.derives
    obtain ⟨children, held, rfl⟩ := given_node node
    obtain rfl := given_held held
    refine ⟨_, rfl, .expression form fun token first isWord reserved => ?_⟩
    -- the word would have been seen before the expression was read
    rcases reading_front expression token first with front | isMark
    · obtain ⟨tokens, broken⟩ := start
      cases tokens with
      | nil => simp at front
      | cons head tail =>
          obtain rfl : head = token := by simpa using front
          cases broken with
          | true =>
              have closed : (⟨head :: tail, true⟩ : Cursor).isClosed := .inl (.inr rfl)
              rw [Expressions.expression, reading_closed closed
                (Gram.opens_rule (.operation .disjunction .leading))] at expression
              simp at expression
          | false => simp [isWord, reserved] at none
    · simp [isWord] at isMark

theorem given_statement {tree : Tree} (given : Given [] (Statements.statement .block) [tree]) :
    StatementForm tree := by
  have form : ∃ tree', [tree] = [tree'] ∧ StatementForm tree' := by
    obtain ⟨setting, cursor, rest, none, lexed, found⟩ := given
    obtain ⟨g, among, this⟩ := reading_choice_done (by simp) found
    have given : Given [] g [tree] := ⟨_, _, _, none, lexed, this⟩
    have foreign {g : Form} (avoids : g.avoids statementKinds = true) (given : Given [] g [tree]) :
        ∃ tree', [tree] = [tree'] ∧ StatementForm tree' := by
      obtain ⟨tree, same, foreign⟩ := given_avoids avoids given
      exact ⟨tree, same, .other foreign⟩
    simp only [List.mem_cons, List.not_mem_nil, or_false] at among
    rcases among with rfl | rfl | rfl | rfl | rfl | rfl | rfl | rfl | rfl | rfl | rfl | rfl | rfl
      | rfl | rfl | rfl | rfl
    · exact foreign rfl given
    · exact foreign rfl (given_rule given)
    · exact given_return given
    · exact foreign rfl given
    · exact foreign rfl given
    · exact foreign rfl (given_rule given)
    · exact foreign rfl given
    · exact foreign rfl given
    · exact foreign rfl given
    · exact foreign rfl given
    · exact foreign rfl given
    · exact foreign rfl given
    · exact foreign rfl given
    · exact foreign rfl given
    · exact foreign rfl (given_rule given)
    · exact foreign rfl given
    · exact reading_plainStatement lexed this
  obtain ⟨tree', same, form⟩ := form
  exact List.singleton_inj.1 same ▸ form

theorem given_block {tree : Tree} (given : Given [] Statements.block [tree]) :
    ∃ a b items trees,
      tree = .node .block .plain
          (.leaf .mark .plain ⟨a, .mark, "\x7b"⟩ ::
            (trees ++ [.leaf .mark .plain ⟨b, .mark, "\x7d"⟩]))
        ∧ Lined items trees ∧ ∀ item ∈ items, StatementForm item := by
  have label {held trees : List Tree} (given : Given held (.rule (.emptyLabel .block)) trees) :
      ∃ tree, trees = [tree] ∧ StatementForm tree := by
    obtain ⟨tree, rfl, foreign⟩ := @given_avoids _ _ statementKinds _ rfl (given_rule given)
    exact ⟨tree, rfl, .other foreign⟩
  obtain ⟨children, inside, same⟩ := given_node given
  obtain rfl := List.singleton_inj.1 same
  obtain ⟨lefts, middle, rights, left, listed, right, rfl⟩ := given_three inside
  obtain ⟨a, rfl⟩ := given_punct left
  obtain ⟨b, rfl⟩ := given_punct right
  suffices lines : ∃ items, Lined items middle ∧ ∀ item ∈ items, StatementForm item by
    obtain ⟨items, lined, forms⟩ := lines
    exact ⟨a, b, items, middle, rfl, lined, forms⟩
  rcases given_optional listed with some | rfl
  · rcases given_alt (given_rule some) with statements | alone
    · obtain ⟨firsts, more, lasts, first, many, last, rfl⟩ := given_three statements
      obtain ⟨item, rfl⟩ := given_one (by decide) (given_rule first)
      obtain ⟨items, lined, all⟩ := given_lines (by decide) (.inl rfl) many
      -- a label may stand alone after the last statement
      have final : ∃ items, Lined items lasts ∧ ∀ item ∈ items, StatementForm item := by
        rcases given_optional last with some | rfl
        · obtain ⟨marks, labels, ended, optional, rfl⟩ := given_seq some
          rcases given_optional optional with found | rfl
          · obtain ⟨tree, rfl, form⟩ := label found
            exact ⟨[tree], (given_ended ended).append (.item tree .nil), by simpa using form⟩
          · exact ⟨[], (given_ended ended).append .nil, by simp⟩
        · exact ⟨[], .nil, by simp⟩
      obtain ⟨others, lasting, forms⟩ := final
      refine ⟨item :: (items ++ others), .item item (lined.append lasting), ?_⟩
      simp only [List.mem_cons, List.mem_append, forall_eq_or_imp]
      refine ⟨given_statement (given_rule first), fun item member => ?_⟩
      exact member.elim (fun early => given_statement (all item early)) (forms item)
    · obtain ⟨tree, rfl, form⟩ := label alone
      exact ⟨[tree], .item tree .nil, by simpa using form⟩
  · exact ⟨[], .nil, by simp⟩

end Statements

/-! Imports. -/

def ImportName.leaf (lead : List Gap) : ImportName → Tree
  | .dot => .leaf .dotName .name ⟨lead, .mark, "."⟩
  | .blank => .leaf .blankName .name ⟨lead, .word, "_"⟩
  | .word text => .leaf .packageIdentifier .name ⟨lead, .word, text⟩

inductive ImportForm : Tree → Prop where
  | plain {lead quote} : ImportForm (.node .importSpec .plain [Quote.leaf .path lead quote])
  | named {a b name quote} (sound : ImportName.Sound name) :
      ImportForm (.node .importSpec .plain [name.leaf a, Quote.leaf .path b quote])

section Imports

variable {held trees : List Tree}

theorem given_importName (given : Given held Statements.importName trees) :
    ∃ lead name, trees = [ImportName.leaf lead name] ∧ name.Sound := by
  obtain ⟨setting, cursor, rest, rfl, lexed, found⟩ := given
  obtain ⟨inner, inside, rfl⟩ := reading_as_done.1 found
  rcases reading_alt_done.1 inside with dot | ⟨-, others⟩
  · obtain ⟨lead, rfl⟩ := given_mark ⟨_, _, _, rfl, lexed, dot⟩
    exact ⟨lead, .dot, rfl, trivial⟩
  · rcases reading_alt_done.1 others with blank | ⟨other, word⟩
    · obtain ⟨lead, rfl⟩ := given_keyword ⟨_, _, _, rfl, lexed, blank⟩
      exact ⟨lead, .blank, rfl, trivial⟩
    · obtain ⟨⟨lead, lexeme, text⟩, tail, rfl, ⟨rfl, -⟩, rfl, -⟩ := reading_leaf_done rfl word
      refine ⟨lead, .word text, rfl, lexed _ List.mem_cons_self rfl, fun same => ?_⟩
      simp [same] at other

theorem given_importSpec {tree : Tree} (given : Given held Statements.importSpec [tree]) :
    ImportForm tree := by
  obtain ⟨children, inside, same⟩ := given_node given
  obtain rfl := List.singleton_inj.1 same
  obtain ⟨names, paths, name, path, rfl⟩ := given_seq inside
  obtain ⟨b, quote, rfl⟩ := given_string path
  rcases given_optional name with some | rfl
  · obtain ⟨a, name, rfl, sound⟩ := given_importName some
    exact .named sound
  · exact .plain

end Imports

/-! Types with their names. -/

inductive SpecForm : Tree → Prop where
  | unbuilt {kind role children} (foreign : isBuilt kind children = false) :
      SpecForm (.node kind role children)
  | renamed {a b name target} (isName : IsName name) (typed : Given [] Types.type [target]) :
      SpecForm (.node .typeAlias .plain
        [.leaf .typeIdentifier .name ⟨a, .word, name⟩, .leaf .mark .plain ⟨b, .mark, "="⟩,
         target.withRole .type])
  | plain {a name target} (isName : IsName name) (typed : Given [] Types.type [target]) :
      SpecForm (.node .typeSpec .plain
        [.leaf .typeIdentifier .name ⟨a, .word, name⟩, target.withRole .type])

section Specs

variable {held trees : List Tree}

theorem given_spec {grouped : Bool} {tree : Tree}
    (given : Given held (Statements.typeSpec grouped) [tree]) : SpecForm tree := by
  rcases given_alt given with renamed | plain
  · obtain ⟨children, inside, same⟩ := given_node renamed
    obtain rfl := List.singleton_inj.1 same
    obtain ⟨names, marks, targets, name, mark, target, rfl⟩ := given_three inside
    obtain ⟨inner, word, rfl⟩ := given_as name
    obtain ⟨a, text, rfl, isName, -⟩ := given_name word
    obtain ⟨b, rfl⟩ := given_punct mark
    obtain ⟨tree, rfl, typed⟩ := given_filled (by decide) target
    exact .renamed isName typed
  · obtain ⟨children, inside, same⟩ := given_node plain
    obtain rfl := List.singleton_inj.1 same
    obtain ⟨names, others, name, rest, rfl⟩ := given_seq inside
    obtain ⟨inner, word, rfl⟩ := given_as name
    obtain ⟨a, text, rfl, isName, -⟩ := given_name word
    have generic {trees : List Tree} (given : Given held parametrized trees) :
        SpecForm (.node .typeSpec .plain (.leaf .typeIdentifier .name ⟨a, .word, text⟩ :: trees)) := by
      obtain ⟨lists, targets, list, -, rfl⟩ := given_seq given
      obtain ⟨inner, parameters, rfl⟩ := given_as list
      obtain ⟨children, -, rfl⟩ := given_node parameters
      exact .unbuilt (by simp [isBuilt, Tree.isNamed, Tree.kind, constituents, typeKinds])
    rcases given_alt rest with long | others
    · obtain ⟨quiet, inner, ahead, parameters, rfl⟩ := given_seq long
      obtain rfl := derives_ahead.1 ahead.derives
      exact generic parameters
    · rcases given_alt others with target | short
      · obtain ⟨tree, rfl, typed⟩ := given_filled (by decide) target
        exact .plain isName typed
      · exact generic short

end Specs

/-! Declarations. -/

inductive BodyForm : List Tree → Prop where
  | none : BodyForm []
  | block {tree} (given : Given [] Statements.block [tree]) : BodyForm [tree.withRole .body]

inductive DeclarationForm : Tree → Prop where
  | other {tree} (foreign : tree.kind ∉ .mark :: declarationKinds) : DeclarationForm tree
  | unbuilt {kind role children} (foreign : isBuilt kind children = false) :
      DeclarationForm (.node kind role children)
  | package {a b text} (isName : IsName text) :
      DeclarationForm (.node .packageClause .plain
        [.leaf .mark .plain ⟨a, .word, "package"⟩,
         .leaf .packageIdentifier .plain ⟨b, .word, text⟩])
  | import {lead spec} (form : ImportForm spec) :
      DeclarationForm (.node .importDeclaration .plain
        [.leaf .mark .plain ⟨lead, .word, "import"⟩, spec])
  | imports {a b c items trees} (lined : Lined items trees)
      (forms : ∀ item ∈ items, ImportForm item) :
      DeclarationForm (.node .importDeclaration .plain
        [.leaf .mark .plain ⟨a, .word, "import"⟩,
         .node .importSpecList .plain
          (.leaf .mark .plain ⟨b, .mark, "("⟩ ::
            (trees ++ [.leaf .mark .plain ⟨c, .mark, ")"⟩]))])
  | type {lead spec} (form : SpecForm spec) :
      DeclarationForm (.node .typeDeclaration .plain
        [.leaf .mark .plain ⟨lead, .word, "type"⟩, spec])
  | types {a b c items trees} (lined : Lined items trees) (forms : ∀ item ∈ items, SpecForm item) :
      DeclarationForm (.node .typeDeclaration .plain
        (.leaf .mark .plain ⟨a, .word, "type"⟩ :: .leaf .mark .plain ⟨b, .mark, "("⟩ ::
          (trees ++ [.leaf .mark .plain ⟨c, .mark, ")"⟩])))
  | function {a b text list results bodies} (isName : IsName text)
      (listed : Given [] Types.parameters [list]) (resulting : ResultForm results)
      (bodied : BodyForm bodies) :
      DeclarationForm (.node .functionDeclaration .plain
        (.leaf .mark .plain ⟨a, .word, "func"⟩ :: .leaf .identifier .name ⟨b, .word, text⟩ ::
          list.withRole .parameters :: (results ++ bodies)))
  | method {a b receiver text list results bodies}
      (received : Given [] Types.parameters [receiver]) (isName : IsName text)
      (free : text ∉ typeWords) (listed : Given [] Types.parameters [list])
      (resulting : ResultForm results) (bodied : BodyForm bodies) :
      DeclarationForm (.node .methodDeclaration .plain
        (.leaf .mark .plain ⟨a, .word, "func"⟩ :: receiver.withRole .receiver ::
          .leaf .fieldIdentifier .name ⟨b, .word, text⟩ ::
          list.withRole .parameters :: (results ++ bodies)))

section Declarations

variable {held trees : List Tree}

theorem given_body (given : Given held Statements.body trees) : BodyForm trees := by
  rcases given_optional given with some | rfl
  · obtain ⟨tree, rfl, block⟩ := given_filled (by decide) some
    exact .block block
  · exact .none

theorem given_package (given : Given held Statements.package trees) :
    ∃ tree, trees = [tree] ∧ DeclarationForm tree := by
  obtain ⟨children, inside, rfl⟩ := given_node given
  obtain ⟨words, names, word, name, rfl⟩ := given_seq inside
  obtain ⟨a, rfl⟩ := given_keyword word
  obtain ⟨b, text, rfl, isName, -⟩ := given_name name
  exact ⟨_, rfl, .package isName⟩

theorem given_importDeclaration (given : Given held Statements.importDeclaration trees) :
    ∃ tree, trees = [tree] ∧ DeclarationForm tree := by
  obtain ⟨children, inside, rfl⟩ := given_node given
  obtain ⟨words, others, word, rest, rfl⟩ := given_seq inside
  obtain ⟨a, rfl⟩ := given_keyword word
  rcases given_alt rest with list | spec
  · obtain ⟨specs, listed, rfl⟩ := given_node list
    obtain ⟨lefts, middle, rights, left, items, right, rfl⟩ := given_three listed
    obtain ⟨b, rfl⟩ := given_punct left
    obtain ⟨c, rfl⟩ := given_punct right
    obtain ⟨items, lined, all⟩ := given_terminated (by decide) items
    exact ⟨_, rfl, .imports lined fun item member => given_importSpec (all item member)⟩
  · obtain ⟨tree, rfl⟩ := given_one (by decide) (given_rule spec)
    exact ⟨_, rfl, .import (given_importSpec (given_rule spec))⟩

theorem given_typeDeclaration (given : Given held typeDeclarationForm trees) :
    ∃ tree, trees = [tree] ∧ DeclarationForm tree := by
  obtain ⟨children, inside, rfl⟩ := given_node given
  obtain ⟨words, others, word, rest, rfl⟩ := given_seq inside
  obtain ⟨a, rfl⟩ := given_keyword word
  rcases given_alt rest with group | single
  · obtain ⟨lefts, middle, rights, left, many, right, rfl⟩ := given_three group
    obtain ⟨b, rfl⟩ := given_punct left
    obtain ⟨c, rfl⟩ := given_punct right
    obtain ⟨items, lined, all⟩ := given_lines (by decide) (.inr rfl) many
    exact ⟨_, rfl, .types lined fun item member => given_spec (all item member)⟩
  · obtain ⟨tree, rfl⟩ := given_one (by decide) (given_rule single)
    exact ⟨_, rfl, .type (given_spec (given_rule single))⟩

theorem given_functionDeclaration (given : Given held Statements.functionDeclaration trees) :
    ∃ tree, trees = [tree] ∧ DeclarationForm tree := by
  obtain ⟨children, inside, rfl⟩ := given_node given
  obtain ⟨words, names, generics, signatures, bodies, word, name, generic, signature, body, rfl⟩ :=
    given_five inside
  obtain ⟨a, rfl⟩ := given_keyword word
  obtain ⟨inner, identifier, rfl⟩ := given_as name
  obtain ⟨b, text, rfl, isName, -⟩ := given_name identifier
  obtain ⟨list, results, rfl, listed, resulting⟩ := given_signature signature
  rcases given_optional generic with some | rfl
  · obtain ⟨inner, parameters, rfl⟩ := given_as some
    obtain ⟨children, -, rfl⟩ := given_node parameters
    exact ⟨_, rfl, .unbuilt (by simp [isBuilt, Tree.isNamed, Tree.kind, constituents, typeKinds])⟩
  · exact ⟨_, rfl, .function isName listed resulting (given_body body)⟩

theorem given_methodDeclaration (given : Given held Statements.methodDeclaration trees) :
    ∃ tree, trees = [tree] ∧ DeclarationForm tree := by
  obtain ⟨children, inside, rfl⟩ := given_node given
  obtain ⟨words, receivers, names, signatures, bodies, word, receiver, name, signature, body, rfl⟩ :=
    given_five inside
  obtain ⟨a, rfl⟩ := given_keyword word
  obtain ⟨first, rfl, received⟩ := given_filled (by decide) receiver
  obtain ⟨inner, identifier, rfl⟩ := given_as name
  obtain ⟨b, text, rfl, isName, free⟩ := given_name identifier
  obtain ⟨list, results, rfl, listed, resulting⟩ := given_signature signature
  exact ⟨_, rfl, .method received isName free listed resulting (given_body body)⟩

/-- Statements at the top of a source: of those that are laid out anew, declarations of types. -/
theorem given_topStatement (given : Given held (Statements.statement .top) trees) :
    ∃ tree, trees = [tree] ∧ DeclarationForm tree := by
  have foreign {held : List Tree} {g : Form} (avoids : g.avoids (.mark :: declarationKinds) = true)
      (given : Given held g trees) : ∃ tree, trees = [tree] ∧ DeclarationForm tree := by
    obtain ⟨tree, same, foreign⟩ := given_avoids avoids given
    exact ⟨tree, same, .other foreign⟩
  obtain ⟨g, among, this⟩ := given_choice (by simp) given
  simp only [List.mem_cons, List.not_mem_nil, or_false] at among
  rcases among with rfl | rfl | rfl | rfl | rfl | rfl | rfl | rfl | rfl | rfl | rfl | rfl | rfl
    | rfl | rfl | rfl | rfl
  case inr.inl =>
    obtain ⟨g, among, this⟩ := given_choice (by simp) (given_rule this)
    simp only [List.mem_cons, List.not_mem_nil, or_false] at among
    rcases among with rfl | rfl | rfl
    · exact foreign rfl this
    · exact given_typeDeclaration this
    · exact foreign rfl this
  all_goals first | exact foreign rfl this | exact foreign rfl (given_rule this)

/-- The declarations of a source, with what ends them. -/
theorem given_source (given : Given held Statements.source trees) :
    ∃ items, Lined items trees ∧ ∀ item ∈ items, DeclarationForm item := by
  obtain ⟨parts, rfl, each⟩ := given_many given
  clear given
  induction parts with
  | nil => exact ⟨[], .nil, by simp⟩
  | cons part parts ih =>
      obtain ⟨items, lined, forms⟩ := ih fun other member => each other (List.mem_cons_of_mem _ member)
      obtain ⟨trees, marks, one, ended, rfl⟩ := given_seq (each part List.mem_cons_self)
      have declared : ∃ tree, trees = [tree] ∧ DeclarationForm tree := by
        obtain ⟨g, among, this⟩ := given_choice (by simp) one
        simp only [List.mem_cons, List.not_mem_nil, or_false] at among
        rcases among with rfl | rfl | rfl | rfl | rfl
        · exact given_package this
        · exact given_importDeclaration this
        · exact given_functionDeclaration this
        · exact given_methodDeclaration this
        · obtain ⟨quiet, trees, absent, statement, rfl⟩ := given_seq this
          obtain rfl := derives_absent.1 absent.derives
          exact given_topStatement (given_rule statement)
      obtain ⟨tree, rfl, form⟩ := declared
      exact ⟨tree :: items, Lined.append (.item tree (given_ended ended)) lined,
        List.forall_mem_cons.2 ⟨form, forms⟩⟩

end Declarations

end InterfaceMocks.Preservation
