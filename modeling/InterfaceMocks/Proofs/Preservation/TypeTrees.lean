import InterfaceMocks.Proofs.Grammar.Answers
import InterfaceMocks.Proofs.Preservation.Settled
import InterfaceMocks.Proofs.Preservation.Types

/-!
How the types of a source are built, with the parameters, results and fields in them. Each node is
given with its children spelled out, down to the types and expressions that it is made of; what is
not laid out anew is left as it is.

A word alone is never read as a parameter where it could be a name that shares the type of the
parameter after it (`bare_before_shared`).
-/

namespace InterfaceMocks.Preservation

open InterfaceMocks.Syntax InterfaceMocks.Grammar
open InterfaceMocks.Layout (parameterTrees)
open InterfaceMocks.Written (IsName)

/-! Lists with commas. -/

def comma (lead : List Gap) : Tree := .leaf .mark .plain ⟨lead, .mark, ","⟩

/-- Items, and the same with commas between them. -/
inductive Joined : List Tree → List Tree → Prop where
  | nil : Joined [] []
  | one (item : Tree) : Joined [item] [item]
  | more (item : Tree) (lead : List Gap) {next items trees} (rest : Joined (next :: items) trees) :
      Joined (item :: next :: items) (item :: comma lead :: trees)

def IsTrailing (trees : List Tree) : Prop := trees = [] ∨ ∃ lead, trees = [comma lead]

inductive Names (kind : Kind) : List String → List Tree → Prop where
  | one {lead text} (isName : IsName text) :
      Names kind [text] [.leaf kind .name ⟨lead, .word, text⟩]
  | more {lead lead' text texts trees} (isName : IsName text) (rest : Names kind texts trees) :
      Names kind (text :: texts) (.leaf kind .name ⟨lead, .word, text⟩ :: comma lead' :: trees)

/-- Items, and the same with terminators between them. -/
inductive Lined : List Tree → List Tree → Prop where
  | nil : Lined [] []
  | item (item : Tree) {items trees} (rest : Lined items trees) :
      Lined (item :: items) (item :: trees)
  | mark {tree items trees} (ends : isMarkIn [";", "\x00"] tree = true) (rest : Lined items trees) :
      Lined items (tree :: trees)

def Quote.leaf (role : Role) (lead : List Gap) (quote : Quote) : Tree :=
  if quote.raw then .leaf .rawStringLiteral role ⟨lead, .raw, quote.text⟩
  else .leaf .interpretedStringLiteral role ⟨lead, .quoted, quote.text⟩

section Lists

variable {held trees : List Tree}

theorem given_comma (given : Given held (.punct ",") trees) : ∃ lead, trees = [comma lead] :=
  given_punct given

theorem given_trailing (given : Given held (.optional (.punct ",")) trees) : IsTrailing trees :=
  (given_optional given).elim (fun some => .inr (given_comma some)) .inl

theorem names_of_many {kind : Kind} {text : String} (lead : List Gap) (isName : IsName text)
    (given : Given held (.many (.seq (.punct ",") (.as .name (Types.anyName kind)))) trees) :
    ∃ texts, Names kind (text :: texts) (.leaf kind .name ⟨lead, .word, text⟩ :: trees) := by
  obtain ⟨parts, rfl, each⟩ := given_many given
  clear given
  induction parts generalizing lead text with
  | nil => exact ⟨[], .one isName⟩
  | cons part parts ih =>
      obtain ⟨commas, names, mark, name, rfl⟩ := given_seq (each part List.mem_cons_self)
      obtain ⟨lead', rfl⟩ := given_comma mark
      obtain ⟨inner, inside, rfl⟩ := given_as name
      obtain ⟨lead'', next, rfl, isNext, -⟩ := given_name inside
      obtain ⟨texts, rest⟩ := ih lead'' isNext fun other member =>
        each other (List.mem_cons_of_mem _ member)
      exact ⟨next :: texts, .more isName rest⟩

/-- What is given after commas, with what stands before them. -/
theorem joined_of_many {g : Form} {each : Tree → Prop} (first : Tree)
    (given : Given held (.many (.seq (.punct ",") g)) trees)
    (holds : ∀ {trees}, Given held g trees → ∃ tree, trees = [tree] ∧ each tree) :
    ∃ items, Joined (first :: items) (first :: trees) ∧ ∀ item ∈ items, each item := by
  obtain ⟨parts, rfl, all⟩ := given_many given
  clear given
  induction parts generalizing first with
  | nil => exact ⟨[], .one first, by simp⟩
  | cons part parts ih =>
      obtain ⟨commas, names, mark, found, rfl⟩ := given_seq (all part List.mem_cons_self)
      obtain ⟨lead, rfl⟩ := given_comma mark
      obtain ⟨second, rfl, this⟩ := holds found
      obtain ⟨items, joined, others⟩ := ih second fun other member =>
        all other (List.mem_cons_of_mem _ member)
      exact ⟨second :: items, .more first lead joined, List.forall_mem_cons.2 ⟨this, others⟩⟩

theorem given_one {g : Form} (one : g.givesOne false = true) (given : Given [] g trees) :
    ∃ tree, trees = [tree] :=
  (given.derives.one one (by simp)).imp fun _ => And.left

/-- A rule in a role gives one tree, that of the rule. -/
theorem given_filled {role : Role} {name : Rule} (one : (rules name).givesOne false = true)
    (given : Given held (.as role (.rule name)) trees) :
    ∃ tree, trees = [tree.withRole role] ∧ Given [] (rules name) [tree] := by
  obtain ⟨inner, inside, rfl⟩ := given_as given
  have found := given_rule inside
  obtain ⟨tree, rfl⟩ := given_one one found
  exact ⟨tree, rfl, found⟩

theorem given_string {role : Role} (given : Given held (.as role Types.string) trees) :
    ∃ lead quote, trees = [Quote.leaf role lead quote] := by
  obtain ⟨inner, inside, rfl⟩ := given_as given
  rcases given_alt inside with quoted | raw
  · obtain ⟨lead, text, rfl⟩ := given_literal quoted
    exact ⟨lead, ⟨false, text⟩, rfl⟩
  · obtain ⟨lead, text, rfl⟩ := given_literal raw
    exact ⟨lead, ⟨true, text⟩, rfl⟩

theorem Lined.append {first second firsts seconds : List Tree} (before : Lined first firsts)
    (after : Lined second seconds) : Lined (first ++ second) (firsts ++ seconds) := by
  induction before with
  | nil => exact after
  | item item rest ih => exact .item item ih
  | mark ends rest ih => exact .mark ends ih

theorem given_ended (given : Given held .terminator trees) : Lined [] trees := by
  rcases given_terminator given with rfl | ⟨⟨lead, lexeme, text⟩, ends, rfl⟩
  · exact .nil
  · simp only [Cursor.isTerminator, Bool.and_eq_true, Bool.or_eq_true, decide_eq_true_eq] at ends
    exact .mark (by simpa [isMarkIn] using ends.2) .nil

/-- Items that a rule gives one by one, each before or after a terminator. -/
theorem given_lines {name : Rule} (one : (rules name).givesOne false = true) {g : Form}
    (form : g = .seq .terminator (.rule name) ∨ g = .seq (.rule name) .terminator)
    (given : Given held (.many g) trees) :
    ∃ items, Lined items trees ∧ ∀ item ∈ items, Given [] (rules name) [item] := by
  obtain ⟨parts, rfl, each⟩ := given_many given
  clear given
  induction parts with
  | nil => exact ⟨[], .nil, by simp⟩
  | cons part parts ih =>
      obtain ⟨items, lined, all⟩ := ih fun other member => each other (List.mem_cons_of_mem _ member)
      have here := each part List.mem_cons_self
      have single : ∃ item, Lined [item] part ∧ Given [] (rules name) [item] := by
        rcases form with rfl | rfl
        · obtain ⟨marks, trees, terminator, found, rfl⟩ := given_seq here
          obtain ⟨item, rfl⟩ := given_one one (given_rule found)
          exact ⟨item, (given_ended terminator).append (.item item .nil), given_rule found⟩
        · obtain ⟨trees, marks, found, terminator, rfl⟩ := given_seq here
          obtain ⟨item, rfl⟩ := given_one one (given_rule found)
          exact ⟨item, .item item (given_ended terminator), given_rule found⟩
      obtain ⟨item, line, this⟩ := single
      exact ⟨item :: items, line.append lined, by simpa using ⟨this, all⟩⟩

theorem given_terminated {name : Rule} (one : (rules name).givesOne false = true)
    (given : Given held (Types.terminated (.rule name)) trees) :
    ∃ items, Lined items trees ∧ ∀ item ∈ items, Given [] (rules name) [item] := by
  rcases given_optional given with some | rfl
  · obtain ⟨firsts, middle, lasts, first, many, last, rfl⟩ := given_three some
    obtain ⟨item, rfl⟩ := given_one one (given_rule first)
    obtain ⟨items, lined, all⟩ := given_lines one (.inl rfl) many
    have final : Lined [] lasts := by
      rcases given_optional last with ended | rfl
      · exact given_ended ended
      · exact .nil
    exact ⟨item :: (items ++ []), .item item (lined.append final),
      by simpa using ⟨given_rule first, all⟩⟩
  · exact ⟨[], .nil, by simp⟩

end Lists

/-! Types. -/

def qualifiedTree (a b c : List Gap) (package text : String) : Tree :=
  .node .qualifiedType .plain
    [.leaf .packageIdentifier .package ⟨a, .word, package⟩, .leaf .mark .plain ⟨b, .mark, "."⟩,
     .leaf .typeIdentifier .name ⟨c, .word, text⟩]

def typeContext : List Kind :=
  [.mark, .fieldIdentifier, .parameterList, .block] ++ stringKinds ++ expressionKinds ++ typeKinds

inductive TypeForm : Tree → Prop where
  | other {tree} (foreign : tree.kind ∉ typeContext) : TypeForm tree
  | name {lead text} (isName : IsName text) (free : text ∉ typeWords) :
      TypeForm (.leaf .typeIdentifier .plain ⟨lead, .word, text⟩)
  | qualified {a b c package text} (isPackage : IsName package) (free : package ∉ typeWords)
      (isName : IsName text) : TypeForm (qualifiedTree a b c package text)
  | pointer {a target} (typed : Given [] Types.type [target]) :
      TypeForm (.node .pointerType .plain [.leaf .mark .plain ⟨a, .mark, "*"⟩, target])
  | slice {a b element} (typed : Given [] Types.type [element]) :
      TypeForm (.node .sliceType .plain
        [.leaf .mark .plain ⟨a, .mark, "["⟩, .leaf .mark .plain ⟨b, .mark, "]"⟩,
         element.withRole .element])
  | array {a b length element}
      (sized : Given [] (Expressions.operation .disjunction .plain) [length])
      (typed : Given [] Types.type [element]) :
      TypeForm (.node .arrayType .plain
        [.leaf .mark .plain ⟨a, .mark, "["⟩, length.withRole .length,
         .leaf .mark .plain ⟨b, .mark, "]"⟩, element.withRole .element])
  | function {held lead trees} (signed : Given held Types.signature trees) :
      TypeForm (.node .functionType .plain (.leaf .mark .plain ⟨lead, .word, "func"⟩ :: trees))
  | struct {held a b c trees} (listed : Given held (Types.terminated (.rule .field)) trees) :
      TypeForm (.node .structType .plain
        [.leaf .mark .plain ⟨a, .word, "struct"⟩,
         .node .fieldDeclarationList .plain
          (.leaf .mark .plain ⟨b, .mark, "\x7b"⟩ ::
            (trees ++ [.leaf .mark .plain ⟨c, .mark, "\x7d"⟩]))])

section TypeForms

variable {held trees : List Tree}

theorem given_qualified {reserved : List String}
    (given : Given held (Types.qualifiedName reserved) trees) :
    ∃ a b c package text, trees = [qualifiedTree a b c package text] ∧ IsName package
      ∧ package ∉ reserved ∧ IsName text := by
  obtain ⟨children, inside, rfl⟩ := given_node given
  obtain ⟨packages, nothing, dots, names, package, joined, dot, name, rfl⟩ := given_four inside
  obtain ⟨inner, word, rfl⟩ := given_as package
  obtain ⟨a, label, rfl, isPackage, free⟩ := given_name word
  obtain rfl := derives_joined.1 joined.derives
  obtain ⟨b, rfl⟩ := given_punct dot
  obtain ⟨inner, word, rfl⟩ := given_as name
  obtain ⟨c, text, rfl, isName, -⟩ := given_name word
  exact ⟨a, b, c, label, text, rfl, isPackage, free, isName⟩

theorem foreign_type {g : Form} (avoids : g.avoids typeContext = true)
    (given : Given held g trees) : ∃ tree, trees = [tree] ∧ TypeForm tree := by
  obtain ⟨tree, rfl, foreign⟩ := given_avoids avoids given
  exact ⟨tree, rfl, .other foreign⟩

theorem given_namedType {reserved : List String}
    (given : Given held (Types.namedType reserved) trees) :
    ∃ tree, trees = [tree] ∧ (tree.kind ∉ typeContext
      ∨ (∃ a b c package text, tree = qualifiedTree a b c package text ∧ IsName package
          ∧ package ∉ reserved ∧ IsName text)
      ∨ ∃ lead text, tree = .leaf .typeIdentifier .plain ⟨lead, .word, text⟩ ∧ IsName text
          ∧ text ∉ reserved) := by
  obtain ⟨g, among, this⟩ := given_choice (by simp) given
  simp only [List.mem_cons, List.not_mem_nil, or_false] at among
  rcases among with rfl | rfl | rfl | rfl
  · obtain ⟨tree, rfl, foreign⟩ := @given_avoids _ _ typeContext _ rfl this
    exact ⟨tree, rfl, .inl foreign⟩
  · obtain ⟨a, b, c, package, text, rfl, facts⟩ := given_qualified this
    exact ⟨_, rfl, .inr (.inl ⟨a, b, c, package, text, rfl, facts⟩)⟩
  · obtain ⟨tree, rfl, foreign⟩ := @given_avoids _ _ typeContext _ rfl this
    exact ⟨tree, rfl, .inl foreign⟩
  · obtain ⟨lead, text, rfl, facts⟩ := given_name this
    exact ⟨_, rfl, .inr (.inr ⟨lead, text, rfl, facts⟩)⟩

theorem given_slice (given : Given held Types.slice trees) :
    ∃ tree, trees = [tree] ∧ TypeForm tree := by
  obtain ⟨children, inside, rfl⟩ := given_node given
  obtain ⟨lefts, rights, elements, left, right, element, rfl⟩ := given_three inside
  obtain ⟨a, rfl⟩ := given_punct left
  obtain ⟨b, rfl⟩ := given_punct right
  obtain ⟨tree, rfl, typed⟩ := given_filled (by decide) element
  exact ⟨_, rfl, .slice typed⟩

theorem given_array (given : Given held Types.array trees) :
    ∃ tree, trees = [tree] ∧ TypeForm tree := by
  obtain ⟨children, inside, rfl⟩ := given_node given
  obtain ⟨lefts, lengths, rights, elements, left, length, right, element, rfl⟩ :=
    given_four inside
  obtain ⟨a, rfl⟩ := given_punct left
  obtain ⟨size, rfl, sized⟩ := given_filled (by decide) length
  obtain ⟨b, rfl⟩ := given_punct right
  obtain ⟨tree, rfl, typed⟩ := given_filled (by decide) element
  exact ⟨_, rfl, .array sized typed⟩

theorem given_struct (given : Given held Types.struct trees) :
    ∃ tree, trees = [tree] ∧ TypeForm tree := by
  obtain ⟨children, inside, rfl⟩ := given_node given
  obtain ⟨words, lists, word, list, rfl⟩ := given_seq inside
  obtain ⟨a, rfl⟩ := given_keyword word
  obtain ⟨fields, block, rfl⟩ := given_node list
  obtain ⟨lefts, middle, rights, left, listed, right, rfl⟩ := given_three block
  obtain ⟨b, rfl⟩ := given_punct left
  obtain ⟨c, rfl⟩ := given_punct right
  exact ⟨_, rfl, .struct listed⟩

theorem given_function (given : Given held Types.function trees) :
    ∃ tree, trees = [tree] ∧ TypeForm tree := by
  obtain ⟨children, inside, rfl⟩ := given_node given
  obtain ⟨words, others, word, signed, rfl⟩ := given_seq inside
  obtain ⟨lead, rfl⟩ := given_keyword word
  exact ⟨_, rfl, .function signed⟩

theorem given_markedType (given : Given held Types.markedType trees) :
    ∃ tree, trees = [tree] ∧ TypeForm tree := by
  obtain ⟨g, among, this⟩ := given_choice (by simp) given
  simp only [List.mem_cons, List.not_mem_nil, or_false] at among
  rcases among with rfl | rfl | rfl | rfl | rfl | rfl | rfl | rfl
  · exact given_slice this
  · exact given_array this
  · exact foreign_type (by decide) this
  · exact given_struct this
  · exact foreign_type (by decide) this
  · exact foreign_type (by decide) this
  · exact given_function this
  · exact foreign_type (by decide) this

theorem given_simpleType (given : Given held Types.simpleType trees) :
    ∃ tree, trees = [tree] ∧ TypeForm tree := by
  obtain ⟨g, among, this⟩ := given_choice (by simp) given
  simp only [List.mem_cons, List.not_mem_nil, or_false] at among
  rcases among with rfl | rfl | rfl
  · obtain ⟨children, inside, rfl⟩ := given_node this
    obtain ⟨stars, targets, star, inner, rfl⟩ := given_seq inside
    obtain ⟨lead, rfl⟩ := given_punct star
    have typed := given_rule inner
    obtain ⟨target, rfl⟩ := given_one (by decide) typed
    exact ⟨_, rfl, .pointer typed⟩
  · exact given_markedType this
  · obtain ⟨tree, rfl, foreign | ⟨a, b, c, package, text, rfl, isPackage, free, isName⟩
      | ⟨lead, text, rfl, isName, free⟩⟩ := given_namedType this
    · exact ⟨tree, rfl, .other foreign⟩
    · exact ⟨_, rfl, .qualified isPackage free isName⟩
    · exact ⟨_, rfl, .name isName free⟩

theorem given_type {tree : Tree} (given : Given held Types.type [tree]) : TypeForm tree := by
  have form : ∃ tree', [tree] = [tree'] ∧ TypeForm tree' := by
    rcases given_alt given with simple | parenthesized
    · exact given_simpleType (given_rule simple)
    · exact foreign_type (by decide) parenthesized
  obtain ⟨tree', same, form⟩ := form
  obtain rfl := List.singleton_inj.1 same
  exact form

end TypeForms

/-! Parameters and results. -/

inductive ParameterForm : Tree → Prop where
  | named {first texts names target} (listed : Names .identifier (first :: texts) names)
      (free : first ∉ typeWords) (typed : Given [] Types.type [target]) :
      ParameterForm (.node .parameterDeclaration .plain (names ++ [target.withRole .type]))
  | variadic {lead target} (typed : Given [] Types.type [target]) :
      ParameterForm (.node .variadicParameterDeclaration .plain
        [.leaf .mark .plain ⟨lead, .mark, "..."⟩, target.withRole .type])
  | namedVariadic {text names lead target} (listed : Names .identifier [text] names)
      (free : text ∉ typeWords) (typed : Given [] Types.type [target]) :
      ParameterForm (.node .variadicParameterDeclaration .plain
        (names ++ [.leaf .mark .plain ⟨lead, .mark, "..."⟩, target.withRole .type]))
  | lone {target} (typed : Given [] Types.type [target]) :
      ParameterForm (.node .parameterDeclaration .plain [target.withRole .type])

inductive ResultForm : List Tree → Prop where
  | none : ResultForm []
  | list {list} (listed : Given [] Types.parameters [list]) : ResultForm [list.withRole .result]
  | type {target} (form : TypeForm target) : ResultForm [target.withRole .result]

section Parameters

variable {held trees : List Tree}

theorem given_parameter (given : Given held Types.parameter trees) :
    ∃ tree, trees = [tree] ∧ ParameterForm tree := by
  obtain ⟨g, among, this⟩ := given_choice (by simp) given
  simp only [List.mem_cons, List.not_mem_nil, or_false] at among
  rcases among with rfl | rfl | rfl
  · obtain ⟨nothing, nodes, quiet, absent, node, ahead, rfl⟩ := given_three this
    obtain rfl := derives_absent.1 absent.derives
    obtain rfl := derives_ahead.1 ahead.derives
    obtain ⟨children, inside, rfl⟩ := given_node node
    obtain ⟨firsts, more, targets, first, many, target, rfl⟩ := given_three inside
    obtain ⟨inner, word, rfl⟩ := given_as first
    obtain ⟨lead, text, rfl, isName, free⟩ := given_name word
    obtain ⟨texts, names⟩ := names_of_many lead isName many
    obtain ⟨tree, rfl, typed⟩ := given_filled (by decide) target
    exact ⟨_, rfl, .named names free typed⟩
  · obtain ⟨children, inside, rfl⟩ := given_node this
    obtain ⟨names, marks, targets, name, mark, target, rfl⟩ := given_three inside
    obtain ⟨b, rfl⟩ := given_punct mark
    obtain ⟨tree, rfl, typed⟩ := given_filled (by decide) target
    rcases given_optional name with some | rfl
    · obtain ⟨inner, word, rfl⟩ := given_as some
      obtain ⟨a, text, rfl, isName, free⟩ := given_name word
      exact ⟨_, rfl, .namedVariadic (.one isName) free typed⟩
    · exact ⟨_, rfl, .variadic typed⟩
  · obtain ⟨children, inside, rfl⟩ := given_node this
    obtain ⟨tree, rfl, typed⟩ := given_filled (by decide) inside
    exact ⟨_, rfl, .lone typed⟩

theorem given_signature (given : Given held Types.signature trees) :
    ∃ list results, trees = list.withRole .parameters :: results
      ∧ Given [] Types.parameters [list] ∧ ResultForm results := by
  obtain ⟨lists, results, parameters, result, rfl⟩ := given_seq given
  obtain ⟨list, rfl, listed⟩ := given_filled (by decide) parameters
  refine ⟨list, results, rfl, listed, ?_⟩
  rcases given_alt result with some | none
  · obtain ⟨inner, inside, rfl⟩ := given_as some
    rcases given_alt inside with many | single
    · obtain ⟨tree, rfl⟩ := given_one (by decide) (given_rule many)
      exact .list (given_rule many)
    · obtain ⟨tree, rfl, form⟩ := given_simpleType (given_rule single)
      exact .type form
  · obtain rfl := derives_absent.1 none.derives
    exact .none

end Parameters

def isShared (parameter : Tree) : Bool :=
  parameter.kind = .parameterDeclaration && (parameter.child? .name).isSome

/-! Parameters next to each other. -/

section Neighbours

variable {ends : Bool} {cursor rest : Cursor} {trees : List Tree}

theorem reading_node_leaf {setting : Setting} {kind kind' : Kind} {role : Role} {token : Token}
    {body : Form} :
    reading rules (.node kind body) setting cursor ≠ .done [.leaf kind' role token] rest := by
  intro found
  obtain ⟨children, -, same⟩ := reading_node_done.1 found
  simp at same

theorem reading_type_leaf {setting : Setting} {kind : Kind} {role : Role} {token : Token}
    (found : reading rules (.rule .type) setting cursor = .done [.leaf kind role token] rest) :
    reading rules (Types.plainName typeWords) ⟨setting.follows, setting.follows, []⟩ cursor =
      .done [.leaf kind role token] rest := by
  rw [reading_rule] at found
  rcases reading_alt_done.1 found with simple | ⟨-, parenthesized⟩
  · rw [reading_rule] at simple
    obtain ⟨g, among, this⟩ := reading_choice_done (by simp) simple
    simp only [List.mem_cons, List.not_mem_nil, or_false] at among
    rcases among with rfl | rfl | rfl
    · exact absurd this reading_node_leaf
    · obtain ⟨g, among, this⟩ := reading_choice_done (by simp) this
      simp only [List.mem_cons, List.not_mem_nil, or_false] at among
      rcases among with rfl | rfl | rfl | rfl | rfl | rfl | rfl | rfl
      all_goals try exact absurd this reading_node_leaf
      obtain ⟨g, among, this⟩ := reading_choice_done (by simp) this
      simp only [List.mem_cons, List.not_mem_nil, or_false] at among
      rcases among with rfl | rfl | rfl <;> exact absurd this reading_node_leaf
    · obtain ⟨g, among, this⟩ := reading_choice_done (by simp) this
      simp only [List.mem_cons, List.not_mem_nil, or_false] at among
      rcases among with rfl | rfl | rfl | rfl
      all_goals try exact absurd this reading_node_leaf
      exact this
  · exact absurd parenthesized reading_node_leaf

theorem reading_lone {tree : Tree} (isBare : isBare tree = true)
    (lexed : ∀ token ∈ cursor.tokens, Lexed token)
    (found : reading rules Types.lonelyType ⟨false, ends, []⟩ cursor = .done [tree] rest) :
    ∃ token tail, cursor = ⟨token :: tail, false⟩ ∧ token.lexeme = .word
      ∧ token.text ∉ typeWords ∧ rest = ⟨tail, false⟩ := by
  obtain ⟨children, inside, same⟩ := reading_node_done.1 found
  obtain rfl := List.singleton_inj.1 same
  obtain ⟨inner, typed, rfl⟩ := reading_as_done.1 inside
  -- the type is one tree, and that is a word
  have word : ∃ kind role token, inner = [.leaf kind role token] := by
    have given := given_rule ⟨_, _, _, rfl, lexed, typed⟩
    obtain ⟨type, rfl⟩ := given_one (by decide) given
    cases given_type given with
    | name => exact ⟨_, _, _, rfl⟩
    | other foreign =>
        cases type <;>
          simp_all [Preservation.isBare, isUnnamed, Tree.child?, Tree.children, Tree.kind, Tree.role,
            typeContext, typeKinds]
    | qualified | pointer | slice | array | function | struct =>
        simp [Preservation.isBare, isUnnamed, Tree.child?, Tree.children, Tree.kind, Tree.role,
          qualifiedTree] at isBare
  obtain ⟨kind, role, token, rfl⟩ := word
  obtain ⟨first, tail, rfl, ⟨isWord, free⟩, same, rfl⟩ :=
    reading_leaf_done rfl (reading_type_leaf typed)
  exact ⟨first, tail, rfl, isWord, free, by simp⟩

theorem reading_shared {tree : Tree} (isShared : isShared tree = true)
    (found : reading rules Types.parameter ⟨false, ends, []⟩ cursor = .done [tree] rest) :
    reading rules Types.namedParameter ⟨false, ends, []⟩ cursor = .done [tree] rest := by
  rcases reading_alt_done.1 found with named | ⟨-, others⟩
  · exact named
  · exfalso
    rcases reading_alt_done.1 others with variadic | ⟨-, lone⟩
    · obtain ⟨children, -, same⟩ := reading_node_done.1 variadic
      obtain rfl := List.singleton_inj.1 same
      simp [Preservation.isShared, Tree.kind] at isShared
    · obtain ⟨children, inside, same⟩ := reading_node_done.1 lone
      obtain rfl := List.singleton_inj.1 same
      obtain ⟨inner, -, rfl⟩ := reading_as_done.1 inside
      have none : (inner.map (Tree.withRole .type)).find? (fun child => child.role = .name) = none := by
        rw [List.find?_eq_none]
        intro child member
        simp [roles_of_map inner child member]
      simp [Preservation.isShared, Tree.child?, Tree.children, none] at isShared

def parameterEnd : Form := .alt (.punct ",") (.punct ")")

theorem reading_namedParameter :
    reading rules Types.namedParameter ⟨false, ends, []⟩ cursor = .done trees rest ↔
      reading rules Types.beforeGenericKey ⟨false, ends, []⟩ cursor = .mismatch
        ∧ reading rules sharedParameter ⟨false, ends, []⟩ cursor = .done trees rest
        ∧ ∃ more last, reading rules parameterEnd ⟨false, ends, []⟩ rest = .done more last := by
  have form : Types.namedParameter =
      .seq (.absent Types.beforeGenericKey) (.seq sharedParameter (.ahead parameterEnd)) := rfl
  rw [form]
  constructor
  · intro found
    obtain ⟨quiet, start, nodes, absent, others, rfl⟩ := reading_seq_done.1 found
    obtain ⟨none, rfl, rfl⟩ := reading_absent_done.1 absent
    obtain ⟨nodes, middle, nothing, node, ahead, rfl⟩ := reading_seq_done.1 others
    rw [reading_ahead] at ahead
    obtain ⟨more, last, ended, same⟩ | ⟨-, same⟩ := Reply.branch_eq_done.1 ahead
    · obtain ⟨rfl, rfl⟩ := Reply.done.inj same
      exact ⟨none, by simpa using node, more, last, ended⟩
    · simp at same
  · rintro ⟨none, node, more, last, ended⟩
    refine reading_seq_done.2 ⟨[], cursor, trees, reading_absent_done.2 ⟨none, rfl, rfl⟩, ?_, rfl⟩
    refine reading_seq_done.2 ⟨trees, rest, [], node, ?_, by simp⟩
    rw [reading_ahead]
    exact Reply.branch_eq_done.2 (.inl ⟨more, last, ended, rfl⟩)

def moreNames : Form := .many (.seq (.punct ",") (.as .name (Types.anyName .identifier)))

/-- A word before names that share a type is one of them. -/
theorem reading_sharedParameter {first comma : Token} {tail : List Token}
    (isWord : first.lexeme = .word) (free : first.text ∉ typeWords)
    (isComma : comma.lexeme = .mark ∧ comma.text = ",")
    (found : reading rules sharedParameter ⟨false, ends, []⟩ ⟨tail, false⟩ = .done trees rest) :
    (∃ more, reading rules sharedParameter ⟨false, ends, []⟩ ⟨first :: comma :: tail, false⟩ =
      .done more rest) ∧ ∃ second others, tail = second :: others ∧ second.lexeme = .word
        ∧ second.text ∉ typeWords := by
  obtain ⟨children, inside, rfl⟩ := reading_node_done.1 found
  obtain ⟨names, after, types, name, others, rfl⟩ := reading_seq_done.1 inside
  obtain ⟨inner, word, rfl⟩ := reading_as_done.1 name
  obtain ⟨second, more, same, ⟨isWord', free'⟩, rfl, rfl⟩ := reading_leaf_done rfl word
  obtain ⟨rfl, -⟩ := Cursor.mk.inj same
  refine ⟨?_, second, more, rfl, isWord', free'⟩
  obtain ⟨listed, last, target, many, typed, rfl⟩ := reading_seq_done.1 others
  have later : reading rules moreNames ⟨false, ends, []⟩ ⟨more, false⟩ = .done listed last := by
    rw [← after_flat more]
    exact many
  have again : reading rules moreNames ⟨false, ends, []⟩ ⟨comma :: second :: more, false⟩ =
        .done ([.leaf .mark .plain comma, .leaf .identifier .name second] ++ listed) last := by
    refine reading_many_done.2 (.inl ⟨_, ⟨more, false⟩, listed, ?_, later, rfl⟩)
    simp [isComma, Types.anyName, isWord']
  have whole := reading_seq_done.2 ⟨_, last, target, again, typed, rfl⟩
  exact ⟨_, reading_node_done.2 ⟨_, reading_seq_done.2
    ⟨[.leaf .identifier .name first], ⟨comma :: second :: more, false⟩, _,
      by simp [isWord, free], whole, rfl⟩, rfl⟩⟩

def otherName : Form := .optional (.seq (.leaf .mark (.name ["map"])) (.punct ","))

def genericKey : Form :=
  .sequence [.keyword "map", .punct "[", Types.wrapped (Types.genericName typeWords), .punct "]"]

@[simp] theorem otherName_flat : otherName.startsWithTerminator = false := rfl

@[simp] theorem genericKey_flat : genericKey.startsWithTerminator = false := rfl

@[simp] theorem genericKey_solid : genericKey.nullable = false := rfl

theorem after_eq_mismatch {reply : Reply} : reply.after trees = .mismatch ↔ reply = .mismatch := by
  cases reply <;> simp [Reply.after]

theorem reading_beforeGenericKey {first comma : Token} {tail : List Token}
    (isWord : first.lexeme = .word) (free : first.text ∉ typeWords)
    (isComma : comma.lexeme = .mark ∧ comma.text = ",") :
    reading rules Types.beforeGenericKey ⟨false, ends, []⟩ ⟨first :: comma :: tail, false⟩ =
        .mismatch ↔
      reading rules (.seq otherName genericKey) ⟨false, ends, []⟩ ⟨tail, false⟩ = .mismatch := by
  have form : Types.beforeGenericKey =
      .seq (.leaf .mark (.name typeWords)) (.seq (.punct ",") (.seq otherName genericKey)) := rfl
  rw [form, reading_seq, reading_leaf, leaf_name, if_pos ⟨isWord, free⟩, Reply.andThen_done,
    after_eq_mismatch, reading_seq, Gram.punct, reading_leaf]
  simp [isComma, after_eq_mismatch]

theorem reading_andKey :
    reading rules (.seq otherName genericKey) ⟨false, ends, []⟩ cursor =
      (reading rules otherName ⟨false, ends, []⟩ cursor).andThen fun trees rest =>
        (reading rules genericKey ⟨false, ends, []⟩ rest).after trees := by
  simp

theorem reading_genericKey_other {token : Token} {tail : List Token}
    (other : ¬ (token.lexeme = .word ∧ token.text = "map")) :
    reading rules genericKey ⟨false, ends, []⟩ ⟨token :: tail, false⟩ = .mismatch := by
  simp [genericKey, other]

/-- Where no map with arguments comes after a word, none comes after two. -/
theorem reading_beforeTwo {first comma second : Token} {tail : List Token}
    (isWord : first.lexeme = .word) (free : first.text ∉ typeWords)
    (isWord' : second.lexeme = .word) (free' : second.text ∉ typeWords)
    (isComma : comma.lexeme = .mark ∧ comma.text = ",")
    (none : reading rules Types.beforeGenericKey ⟨false, ends, []⟩ ⟨second :: tail, false⟩ =
      .mismatch) :
    reading rules Types.beforeGenericKey ⟨false, ends, []⟩ ⟨first :: comma :: second :: tail, false⟩ =
      .mismatch := by
  have notMap : ¬ (second.lexeme = .word ∧ second.text = "map") :=
    fun same => free' (by simp [same.2, typeWords])
  have isOther : second.text ≠ "map" := fun same => notMap ⟨isWord', same⟩
  rw [reading_beforeGenericKey isWord free isComma, reading_andKey]
  have short (none : ∀ next more, tail = next :: more → ¬ (next.lexeme = .mark ∧ next.text = ",")) :
      reading rules otherName ⟨false, ends, []⟩ ⟨second :: tail, false⟩ =
        .done [] ⟨second :: tail, false⟩ := by
    cases tail with
    | nil => simp [otherName, isWord', isOther]
    | cons next more => simp [otherName, isWord', isOther, none next more rfl]
  cases tail with
  | nil => simp [short (by simp), reading_genericKey_other notMap]
  | cons next more =>
      by_cases isComma' : next.lexeme = .mark ∧ next.text = ","
      · -- the map, if there is one, comes after the second word as well
        rw [reading_beforeGenericKey isWord' free' isComma', reading_andKey] at none
        have long : reading rules otherName ⟨false, ends, []⟩
            ⟨second :: next :: more, false⟩ =
              .done [.leaf .mark .plain second, .leaf .mark .plain next] ⟨more, false⟩ := by
          simp [otherName, isWord', isOther, isComma']
        rw [long, Reply.andThen_done, after_eq_mismatch]
        cases more with
        | nil => simp [genericKey]
        | cons third others =>
            by_cases isMap : third.lexeme = .word ∧ third.text = "map"
            · have skipped : reading rules otherName ⟨false, ends, []⟩
                  ⟨third :: others, false⟩ = .done [] ⟨third :: others, false⟩ := by
                simp [otherName, isMap]
              rwa [skipped, Reply.andThen_done, after_eq_mismatch] at none
            · exact reading_genericKey_other isMap
      · rw [short (by rintro _ _ same; cases same; exact isComma')]
        simp [reading_genericKey_other notMap]

theorem bare_before_shared {first second : Tree} {comma : Token} {tail : List Token}
    (isBare : isBare first = true) (isShared : isShared second = true)
    (isComma : comma.lexeme = .mark ∧ comma.text = ",")
    (lexed : ∀ token ∈ cursor.tokens, Lexed token)
    (before : reading rules Types.parameter ⟨false, ends, []⟩ cursor =
      .done [first] ⟨comma :: tail, false⟩)
    (after : reading rules Types.parameter ⟨false, ends, []⟩ ⟨tail, false⟩ =
      .done [second] rest) : False := by
  obtain ⟨none, node, more, last, ended⟩ := reading_namedParameter.1 (reading_shared isShared after)
  rcases reading_alt_done.1 before with named | ⟨refused, others⟩
  · -- a parameter that is read with its names has some
    obtain ⟨-, shared, -⟩ := reading_namedParameter.1 named
    obtain ⟨children, inside, same⟩ := reading_node_done.1 shared
    obtain rfl := List.singleton_inj.1 same
    obtain ⟨names, middle, types, name, -, rfl⟩ := reading_seq_done.1 inside
    obtain ⟨inner, word, rfl⟩ := reading_as_done.1 name
    obtain ⟨token, tail, -, -, rfl, -⟩ := reading_leaf_done rfl word
    simp [Preservation.isBare, isUnnamed, Tree.child?, Tree.children, Tree.role] at isBare
  · rcases reading_alt_done.1 others with variadic | ⟨-, lone⟩
    · obtain ⟨children, -, same⟩ := reading_node_done.1 variadic
      obtain rfl := List.singleton_inj.1 same
      simp [Preservation.isBare, isUnnamed, Tree.kind] at isBare
    · obtain ⟨token, rest', rfl, isWord, free, same⟩ := reading_lone isBare lexed lone
      obtain ⟨rfl, -⟩ := Cursor.mk.inj same
      obtain ⟨⟨shared, found⟩, word, others, rfl, isWord', free'⟩ :=
        reading_sharedParameter isWord free isComma node
      have named := reading_namedParameter.2
        ⟨reading_beforeTwo isWord free isWord' free' isComma none, found, more, last, ended⟩
      rw [refused] at named
      simp at named

/-- Whether no word alone comes before a type with names. -/
def isOrderly : List Tree → Bool
  | first :: second :: rest => !(isBare first && isShared second) && isOrderly (second :: rest)
  | _ => true

/-- The parameters after one that was read. -/
theorem parameters_of_repeats {next : Cursor} {first : Tree} {parts : List (List Tree)}
    (lexed : ∀ token ∈ cursor.tokens, Lexed token)
    (once : reading rules Types.parameter ⟨false, ends, []⟩ cursor = .done [first] next)
    (repeats : Repeats (.seq (.punct ",") Types.parameter) ⟨false, ends, []⟩ next parts rest) :
    ∃ items, Joined (first :: items) (first :: parts.flatten)
      ∧ (∀ item ∈ first :: items, ParameterForm item) ∧ isOrderly (first :: items) = true := by
  have form {tree : Tree} {cursor rest : Cursor} (lexed : ∀ token ∈ cursor.tokens, Lexed token)
      (found : reading rules Types.parameter ⟨false, ends, []⟩ cursor = .done [tree] rest) :
      ParameterForm tree := by
    obtain ⟨tree', same, form⟩ := given_parameter ⟨_, _, _, rfl, lexed, found⟩
    exact List.singleton_inj.1 same ▸ form
  induction repeats generalizing first cursor with
  | stop => exact ⟨[], .one first, by simpa using form lexed once, rfl⟩
  | @more start middle last part parts found again ih =>
      obtain ⟨commas, after, trees, mark, found, rfl⟩ := reading_seq_done.1 found
      obtain ⟨comma, tail, rfl, isComma, rfl, rfl⟩ := reading_leaf_done rfl mark
      have later := (reading_derived once lexed).2
      have beyond := (reading_derived mark later).2
      obtain ⟨second, rfl, -⟩ := given_parameter ⟨_, _, _, rfl, beyond, found⟩
      obtain ⟨items, joined, forms, orderly⟩ := ih beyond found
      have apart : (isBare first && isShared second) = false := by
        by_contra both
        simp only [Bool.not_eq_false, Bool.and_eq_true] at both
        exact bare_before_shared both.1 both.2 isComma lexed once
          (by rw [← after_flat tail]; exact found)
      refine ⟨second :: items, ?_, ?_, by simp [isOrderly, apart, orderly]⟩
      · obtain ⟨lead, lexeme, text⟩ := comma
        obtain ⟨rfl, rfl⟩ := isComma
        exact .more first lead joined
      · exact List.forall_mem_cons.2 ⟨form lexed once, forms⟩

theorem given_parameters {list : Tree} (given : Given [] Types.parameters [list]) :
    ∃ a b items trees trailing,
      list = .node .parameterList .plain
          (.leaf .mark .plain ⟨a, .mark, "("⟩ ::
            (trees ++ (trailing ++ [.leaf .mark .plain ⟨b, .mark, ")"⟩])))
        ∧ Joined items trees ∧ IsTrailing trailing ∧ (∀ item ∈ items, ParameterForm item)
        ∧ isOrderly items = true := by
  obtain ⟨⟨follows, ends, held⟩, cursor, rest, rfl, lexed, found⟩ := given
  obtain ⟨children, inside, same⟩ := reading_node_done.1 found
  obtain rfl := List.singleton_inj.1 same
  obtain ⟨lefts, start, others, left, middle, rfl⟩ := reading_seq_done.1 inside
  obtain ⟨a, rfl⟩ := given_punct ⟨_, _, _, rfl, lexed, left⟩
  have later := (reading_derived left lexed).2
  obtain ⟨trees, stop, ending, listed, final, rfl⟩ := reading_seq_done.1 middle
  have last := (reading_derived listed later).2
  obtain ⟨trailings, rights, trailing, right, rfl⟩ := given_seq ⟨_, _, _, rfl, last, final⟩
  obtain ⟨b, rfl⟩ := given_punct right
  have items : ∃ items, Joined items trees ∧ (∀ item ∈ items, ParameterForm item)
      ∧ isOrderly items = true := by
    rcases reading_alt_done.1 listed with some | ⟨-, none⟩
    · obtain ⟨firsts, next, more, once, many, rfl⟩ := reading_seq_done.1 some
      obtain ⟨first, rfl, -⟩ := given_parameter ⟨_, _, _, rfl, later, once⟩
      obtain ⟨parts, rfl, repeats⟩ := reading_many_repeats many
      obtain ⟨items, facts⟩ := parameters_of_repeats later once repeats
      exact ⟨first :: items, facts⟩
    · rw [reading_empty] at none
      obtain ⟨rfl, -⟩ := Reply.done.inj none
      exact ⟨[], .nil, by simp, rfl⟩
  obtain ⟨items, joined, forms, orderly⟩ := items
  exact ⟨a, b, items, trees, trailings, rfl, joined, given_trailing trailing, forms, orderly⟩

end Neighbours

/-! Fields. -/

def IsTag (trees : List Tree) : Prop := trees = [] ∨ ∃ lead quote, trees = [Quote.leaf .tag lead quote]

inductive EmbeddedForm : Tree → Prop where
  | other {tree} (foreign : tree.kind ∉ typeContext) : EmbeddedForm tree
  | name {lead text} (isName : IsName text) :
      EmbeddedForm (.leaf .typeIdentifier .plain ⟨lead, .word, text⟩)
  | qualified {a b c package text} (isPackage : IsName package) (isName : IsName text) :
      EmbeddedForm (qualifiedTree a b c package text)

inductive FieldForm : Tree → Prop where
  | named {first texts names target tag} (listed : Names .fieldIdentifier (first :: texts) names)
      (typed : Given [] Types.type [target]) (tagged : IsTag tag) :
      FieldForm (.node .fieldDeclaration .plain (names ++ target.withRole .type :: tag))
  | embedded {target tag} (form : EmbeddedForm target) (tagged : IsTag tag) :
      FieldForm (.node .fieldDeclaration .plain (target.withRole .type :: tag))
  | pointed {lead rest} :
      FieldForm (.node .fieldDeclaration .plain (.leaf .mark .plain ⟨lead, .mark, "*"⟩ :: rest))

section Fields

variable {held trees : List Tree}

theorem given_tag (given : Given held Types.tag trees) : IsTag trees :=
  (given_optional given).elim (fun some => .inr (given_string some)) .inl

theorem given_embedded {stars targets tags : List Tree}
    (star : Given held (.optional (.punct "*")) stars)
    (target : ∃ tree, targets = [tree.withRole .type] ∧ EmbeddedForm tree) (tag : IsTag tags) :
    FieldForm (.node .fieldDeclaration .plain (stars ++ (targets ++ tags))) := by
  obtain ⟨tree, rfl, form⟩ := target
  rcases given_optional star with some | rfl
  · obtain ⟨lead, rfl⟩ := given_punct some
    exact .pointed
  · exact .embedded form tag

theorem given_field {tree : Tree} (given : Given held Types.field [tree]) : FieldForm tree := by
  have form : ∃ tree', [tree] = [tree'] ∧ FieldForm tree' := by
    obtain ⟨g, among, this⟩ := given_choice (by simp) given
    simp only [List.mem_cons, List.not_mem_nil, or_false] at among
    rcases among with rfl | rfl | rfl
    · obtain ⟨children, inside, same⟩ := given_node this
      obtain ⟨stars, targets, tags, quiet, star, target, tag, ahead, rfl⟩ := given_four inside
      obtain rfl := derives_ahead.1 ahead.derives
      obtain ⟨inner, generic, rfl⟩ := given_as target
      refine ⟨_, same, ?_⟩
      rw [List.append_nil]
      refine given_embedded star ?_ (given_tag tag)
      obtain ⟨tree, rfl, foreign⟩ := @given_avoids _ _ typeContext _ rfl generic
      exact ⟨tree, rfl, .other foreign⟩
    · obtain ⟨children, inside, same⟩ := given_node this
      obtain ⟨firsts, quiet, more, targets, tags, first, joined, many, target, tag, rfl⟩ :=
        given_five inside
      obtain ⟨inner, word, rfl⟩ := given_as first
      obtain ⟨lead, text, rfl, isName, -⟩ := given_name word
      obtain rfl := derives_joined.1 joined.derives
      obtain ⟨texts, names⟩ := names_of_many lead isName many
      obtain ⟨tree, rfl, typed⟩ := given_filled (by decide) target
      exact ⟨_, same, .named names typed (given_tag tag)⟩
    · obtain ⟨children, inside, same⟩ := given_node this
      obtain ⟨stars, targets, tags, star, target, tag, rfl⟩ := given_three inside
      obtain ⟨inner, embedded, rfl⟩ := given_as target
      refine ⟨_, same, given_embedded star ?_ (given_tag tag)⟩
      obtain ⟨tree, rfl, foreign | ⟨a, b, c, package, text, rfl, isPackage, -, isName⟩
        | ⟨lead, text, rfl, isName, -⟩⟩ := given_namedType embedded
      · exact ⟨tree, rfl, .other foreign⟩
      · exact ⟨_, rfl, .qualified isPackage isName⟩
      · exact ⟨_, rfl, .name isName⟩
  obtain ⟨tree', same, form⟩ := form
  obtain rfl := List.singleton_inj.1 same
  exact form

end Fields

end InterfaceMocks.Preservation
