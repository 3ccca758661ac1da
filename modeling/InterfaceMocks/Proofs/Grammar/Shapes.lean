import InterfaceMocks.Proofs.Grammar.Inversion

/-!
What stands below a node, for each kind of node that the layout takes apart. `Formed` lists the
children that such a node can have, with their roles; that every tree of a source is formed this way
is one check of the grammar and one inversion of a derivation for each form.
-/

namespace InterfaceMocks.Grammar

open InterfaceMocks.Syntax

deriving instance DecidableEq for Shape
deriving instance DecidableEq for Gram

/-! The children of nodes. -/

def IsMark (text : String) (tree : Tree) : Prop :=
  ∃ token, tree = .leaf .mark .plain token ∧ token.text = text

def IsLeaf (role : Role) (tree : Tree) : Prop :=
  ∃ kind token, tree = .leaf kind role token ∧ kind ≠ .mark

structure Fills (role : Role) (tree : Tree) : Prop where
  solid : Solid tree
  role : tree.role = role

def IsNode (kind : Kind) (role : Role) (tree : Tree) : Prop :=
  ∃ children, tree = .node kind role children

theorem IsNode.role {kind : Kind} {role : Role} {tree : Tree} (node : IsNode kind role tree) :
    tree.role = role := by
  obtain ⟨children, rfl⟩ := node
  rfl

inductive Separated (each : Tree → Prop) : List Tree → Prop where
  | one {tree} (holds : each tree) : Separated each [tree]
  | more {tree comma rest} (holds : each tree) (mark : IsMark "," comma)
      (others : Separated each rest) : Separated each (tree :: comma :: rest)

def Listed (each : Tree → Prop) (trees : List Tree) : Prop := trees = [] ∨ Separated each trees

def AtMostOne (each : Tree → Prop) (trees : List Tree) : Prop :=
  trees = [] ∨ ∃ tree, trees = [tree] ∧ each tree

def IsItem (kinds : List Kind) (tree : Tree) : Prop :=
  tree.isNamed = false ∨ ∃ kind ∈ kinds, IsNode kind .plain tree

def isParameterNode (tree : Tree) : Prop :=
  IsNode .parameterDeclaration .plain tree ∨ IsNode .variadicParameterDeclaration .plain tree

/-- The children of a node that is laid out, by its kind. -/
inductive Formed : Kind → List Tree → Prop where
  | package {word name} (opens : IsMark "package" word) (named : IsLeaf .plain name)
      (kind : name.kind = .packageIdentifier) : Formed .packageClause [word, name]
  | importSpec {names path} (named : AtMostOne (IsLeaf .name) names) (pathed : IsLeaf .path path) :
      Formed .importSpec (names ++ [path])
  | importSpecList {left middle right} (opens : IsMark "(" left)
      (items : ∀ tree ∈ middle, IsItem [.importSpec] tree) (closes : IsMark ")" right) :
      Formed .importSpecList (left :: (middle ++ [right]))
  | importDeclaration {word tree} (opens : IsMark "import" word)
      (specs : IsNode .importSpecList .plain tree ∨ IsNode .importSpec .plain tree) :
      Formed .importDeclaration [word, tree]
  | typeAlias {name equals target} (named : IsLeaf .name name) (mark : IsMark "=" equals)
      (typed : Fills .type target) : Formed .typeAlias [name, equals, target]
  | typeSpec {name parameters target} (named : IsLeaf .name name)
      (generic : AtMostOne (Fills .typeParameters) parameters) (typed : Fills .type target) :
      Formed .typeSpec (name :: (parameters ++ [target]))
  | typeDeclaration {word tree} (opens : IsMark "type" word)
      (spec : IsNode .typeSpec .plain tree ∨ IsNode .typeAlias .plain tree) :
      Formed .typeDeclaration [word, tree]
  | typeGroup {word left middle right} (opens : IsMark "type" word) (mark : IsMark "(" left)
      (items : ∀ tree ∈ middle, IsItem [.typeSpec, .typeAlias] tree) (closes : IsMark ")" right) :
      Formed .typeDeclaration (word :: left :: (middle ++ [right]))
  | functionDeclaration {word name generic parameters results body} (opens : IsMark "func" word)
      (named : IsLeaf .name name) (typeParameters : AtMostOne (Fills .typeParameters) generic)
      (listed : IsNode .parameterList .parameters parameters)
      (result : AtMostOne (Fills .result) results)
      (bodied : AtMostOne (IsNode .block .body) body) :
      Formed .functionDeclaration
        (word :: name :: (generic ++ parameters :: (results ++ body)))
  | methodDeclaration {word receiver name parameters results body} (opens : IsMark "func" word)
      (received : IsNode .parameterList .receiver receiver) (named : IsLeaf .name name)
      (listed : IsNode .parameterList .parameters parameters)
      (result : AtMostOne (Fills .result) results)
      (bodied : AtMostOne (IsNode .block .body) body) :
      Formed .methodDeclaration
        (word :: receiver :: name :: parameters :: (results ++ body))
  | parameterList {left middle comma right} (opens : IsMark "(" left)
      (items : Listed isParameterNode middle) (trailing : AtMostOne (IsMark ",") comma)
      (closes : IsMark ")" right) : Formed .parameterList (left :: (middle ++ (comma ++ [right])))
  | parameterDeclaration {names target} (named : Listed (IsLeaf .name) names)
      (typed : Fills .type target) : Formed .parameterDeclaration (names ++ [target])
  | variadicParameter {names dots target} (named : AtMostOne (IsLeaf .name) names)
      (mark : IsMark "..." dots) (typed : Fills .type target) :
      Formed .variadicParameterDeclaration (names ++ [dots, target])
  | namedField {names target tag} (named : Separated (IsLeaf .name) names)
      (typed : Fills .type target) (tagged : AtMostOne (IsLeaf .tag) tag) :
      Formed .fieldDeclaration (names ++ target :: tag)
  | embeddedField {star target tag} (pointed : AtMostOne (IsMark "*") star)
      (typed : Fills .type target) (tagged : AtMostOne (IsLeaf .tag) tag) :
      Formed .fieldDeclaration (star ++ target :: tag)
  | fieldList {left middle right} (opens : IsMark "\x7b" left)
      (items : ∀ tree ∈ middle, IsItem [.fieldDeclaration] tree) (closes : IsMark "\x7d" right) :
      Formed .fieldDeclarationList (left :: (middle ++ [right]))
  | structType {word fields} (opens : IsMark "struct" word)
      (listed : IsNode .fieldDeclarationList .plain fields) : Formed .structType [word, fields]
  | interfaceType {word left middle right} (opens : IsMark "interface" word)
      (mark : IsMark "\x7b" left) (closes : IsMark "\x7d" right) :
      Formed .interfaceType (word :: left :: (middle ++ [right]))
  | functionType {word parameters results} (opens : IsMark "func" word)
      (listed : IsNode .parameterList .parameters parameters)
      (result : AtMostOne (Fills .result) results) :
      Formed .functionType (word :: parameters :: results)
  | pointerType {star target} (opens : IsMark "*" star) (typed : Solid target) :
      Formed .pointerType [star, target]
  | sliceType {left right element} (opens : IsMark "[" left) (closes : IsMark "]" right)
      (typed : Fills .element element) : Formed .sliceType [left, right, element]
  | arrayType {left length right element} (opens : IsMark "[" left) (sized : Fills .length length)
      (closes : IsMark "]" right) (typed : Fills .element element) :
      Formed .arrayType [left, length, right, element]
  | qualifiedType {package dot name} (packaged : IsLeaf .package package) (mark : IsMark "." dot)
      (named : IsLeaf .name name) : Formed .qualifiedType [package, dot, name]
  | parenthesizedType {left target right} (opens : IsMark "(" left) (typed : Solid target)
      (closes : IsMark ")" right) : Formed .parenthesizedType [left, target, right]
  | selectorExpression {operands dot field} (operand : ∀ tree ∈ operands, tree.role = .operand)
      (mark : IsMark "." dot) (named : IsLeaf .field field) :
      Formed .selectorExpression (operands ++ [dot, field])
  | callExpression {functions generic arguments}
      (function : ∀ tree ∈ functions, tree.role = .function)
      (typeArguments : ∀ tree ∈ generic, tree.role = .typeArguments)
      (listed : IsNode .argumentList .arguments arguments) :
      Formed .callExpression (functions ++ (generic ++ [arguments]))
  | argumentList {left middle comma right} (opens : IsMark "(" left) (items : Listed Solid middle)
      (trailing : AtMostOne (IsMark ",") comma) (closes : IsMark ")" right) :
      Formed .argumentList (left :: (middle ++ (comma ++ [right])))
  | parenthesizedExpression {left inner right} (opens : IsMark "(" left) (solid : Solid inner)
      (closes : IsMark ")" right) : Formed .parenthesizedExpression [left, inner, right]
  | block {left middle right} (opens : IsMark "\x7b" left) (closes : IsMark "\x7d" right) :
      Formed .block (left :: (middle ++ [right]))
  | returnNothing {word} (opens : IsMark "return" word) : Formed .returnStatement [word]
  | returnStatement {word values} (opens : IsMark "return" word) (listed : Separated Solid values) :
      Formed .returnStatement [word, .node .expressionList .plain values]

/-! The forms of the grammar that make such nodes. -/

def Makes (g : Form) : Prop :=
  ∀ held kind children, Derives rules held g [.node kind .plain children] → Formed kind children

section Forms

variable {held trees children : List Tree} {kind : Kind}

theorem inside_of_node {body : Form} {other : Kind}
    (derives : Derives rules held (.node kind body) [.node other .plain children]) :
    other = kind ∧ Derives rules held body children := by
  obtain ⟨inner, inside, same⟩ := derives_node.1 derives
  simp only [List.cons.injEq, Tree.node.injEq, and_true, true_and] at same
  exact ⟨same.1, same.2 ▸ inside⟩

theorem isMark_of_punct {text : String} (derives : Derives rules held (.punct text) trees) :
    ∃ tree, trees = [tree] ∧ IsMark text tree := by
  obtain ⟨token, admits, -, rfl⟩ := derives_leaf.1 derives
  exact ⟨_, rfl, token, rfl, admits.2⟩

theorem isMark_of_keyword {text : String} (derives : Derives rules held (.keyword text) trees) :
    ∃ tree, trees = [tree] ∧ IsMark text tree := by
  obtain ⟨token, admits, -, rfl⟩ := derives_leaf.1 derives
  exact ⟨_, rfl, token, rfl, admits.2⟩

theorem isLeaf_of_as {role : Role} {shape : Shape} (named : kind ≠ .mark)
    (derives : Derives rules held (.as role (.leaf kind shape)) trees) :
    ∃ tree, trees = [tree] ∧ IsLeaf role tree := by
  obtain ⟨inner, inside, rfl⟩ := derives_as.1 derives
  obtain ⟨token, -, -, rfl⟩ := derives_leaf.1 inside
  exact ⟨_, rfl, kind, token, rfl, named⟩

theorem fills_of_as {role : Role} {g : Form} (one : g.givesOne false = true)
    (derives : Derives rules held (.as role g) trees) :
    ∃ tree, trees = [tree] ∧ Fills role tree := by
  obtain ⟨inner, inside, rfl⟩ := derives_as.1 derives
  obtain ⟨tree, rfl, solid⟩ := inside.one one (by simp)
  exact ⟨_, rfl, solid.withRole role, by cases tree <;> rfl⟩

theorem roles_of_map {role : Role} (trees : List Tree) :
    ∀ tree ∈ trees.map (Tree.withRole role), tree.role = role := by
  intro tree member
  obtain ⟨inner, -, rfl⟩ := List.mem_map.1 member
  cases inner <;> rfl

theorem atMostOne_of_optional {g : Form} {each : Tree → Prop}
    (derives : Derives rules held (.optional g) trees)
    (holds : ∀ {trees}, Derives rules held g trees → ∃ tree, trees = [tree] ∧ each tree) :
    AtMostOne each trees := by
  rcases derives_alt.1 derives with some | none
  · exact .inr (holds some)
  · exact .inl (derives_empty.1 none)

theorem separated_of_many {g : Form} {each : Tree → Prop} {first : Tree} (one : each first)
    (derives : Derives rules held (.many (.seq (.punct ",") g)) trees)
    (holds : ∀ {trees}, Derives rules held g trees → ∃ tree, trees = [tree] ∧ each tree) :
    Separated each (first :: trees) := by
  obtain ⟨parts, rfl, derived⟩ := derives_many derives
  clear derives
  induction parts generalizing first with
  | nil => exact .one one
  | cons part rest ih =>
      obtain ⟨commas, trees, mark, item, rfl⟩ := derives_seq.1 (derived part List.mem_cons_self)
      obtain ⟨comma, rfl, isComma⟩ := isMark_of_punct mark
      obtain ⟨tree, rfl, this⟩ := holds item
      exact .more one isComma
        (ih this fun other member => derived other (List.mem_cons_of_mem _ member))

theorem separated_of_seq {g others : Form} {each : Tree → Prop}
    (derives : Derives rules held (.seq g (.many (.seq (.punct ",") others))) trees)
    (first : ∀ {trees}, Derives rules held g trees → ∃ tree, trees = [tree] ∧ each tree)
    (holds : ∀ {trees}, Derives rules held others trees → ∃ tree, trees = [tree] ∧ each tree) :
    Separated each trees := by
  obtain ⟨ones, more, one, many, rfl⟩ := derives_seq.1 derives
  obtain ⟨tree, rfl, this⟩ := first one
  exact separated_of_many this many holds

/-- Items with terminators between them are items and punctuation. -/
theorem items_of_terminated {g : Form} {kinds : List Kind}
    (derives : Derives rules held (Types.terminated g) trees)
    (holds : ∀ {trees}, Derives rules held g trees → ∀ tree ∈ trees, IsItem kinds tree) :
    ∀ tree ∈ trees, IsItem kinds tree := by
  -- a terminator is a semicolon or nothing
  have mark {trees : List Tree} (derives : Derives rules held .terminator trees) :
      ∀ tree ∈ trees, IsItem kinds tree := by
    cases derives with
    | ended => simp
    | terminator => exact fun tree member => .inl (by simp_all [Tree.isNamed, Tree.kind])
  have join {left right : List Tree} (first : ∀ tree ∈ left, IsItem kinds tree)
      (second : ∀ tree ∈ right, IsItem kinds tree) : ∀ tree ∈ left ++ right, IsItem kinds tree :=
    fun tree member => (List.mem_append.1 member).elim (first tree) (second tree)
  rcases derives_alt.1 derives with some | none
  · obtain ⟨first, others, item, rest, rfl⟩ := derives_seq.1 some
    obtain ⟨more, last, many, optional, rfl⟩ := derives_seq.1 rest
    obtain ⟨parts, rfl, each⟩ := derives_many many
    refine join (holds item) (join ?_ ?_)
    · intro tree member
      obtain ⟨part, among, inside⟩ := List.mem_flatten.1 member
      obtain ⟨before, after, terminator, item, rfl⟩ := derives_seq.1 (each part among)
      exact join (mark terminator) (holds item) tree inside
    · rcases derives_alt.1 optional with final | nothing
      · exact mark final
      · simp [derives_empty.1 nothing]
  · simp [derives_empty.1 none]

theorem isNode_of_node {body : Form} (derives : Derives rules held (.node kind body) trees) :
    ∃ tree, trees = [tree] ∧ IsNode kind .plain tree := by
  obtain ⟨children, -, rfl⟩ := derives_node.1 derives
  exact ⟨_, rfl, children, rfl⟩

/-- A rule that stands for one node. -/
theorem isNode_of_rule {name : Rule} {body : Form} (same : rules name = .node kind body)
    (derives : Derives rules held (.rule name) trees) :
    ∃ tree, trees = [tree] ∧ IsNode kind .plain tree := by
  rw [derives_rule, same] at derives
  exact isNode_of_node derives

theorem isNode_of_as {role : Role} {g : Form} (derives : Derives rules held (.as role g) trees)
    (holds : ∀ {trees}, Derives rules held g trees → ∃ tree, trees = [tree] ∧ IsNode kind .plain tree) :
    ∃ tree, trees = [tree] ∧ IsNode kind role tree := by
  obtain ⟨inner, inside, rfl⟩ := derives_as.1 derives
  obtain ⟨tree, rfl, children, rfl⟩ := holds inside
  exact ⟨_, rfl, children, rfl⟩

theorem makes_qualified (reserved : List String) : Makes (Types.qualifiedName reserved) := by
  intro held kind children derives
  obtain ⟨rfl, inside⟩ := inside_of_node derives
  obtain ⟨packages, nothing, dots, names, package, joined, dot, name, rfl⟩ := derives_four inside
  obtain ⟨tree, rfl, packaged⟩ := isLeaf_of_as (by decide) package
  obtain rfl := derives_joined.1 joined
  obtain ⟨mark, rfl, isDot⟩ := isMark_of_punct dot
  obtain ⟨last, rfl, named⟩ := isLeaf_of_as (by decide) name
  exact .qualifiedType packaged isDot named

theorem makes_pointer {target : Form} (one : target.givesOne false = true) :
    Makes (Expressions.pointerTo target) := by
  intro held kind children derives
  obtain ⟨rfl, inside⟩ := inside_of_node derives
  obtain ⟨stars, targets, star, inner, rfl⟩ := derives_seq.1 inside
  obtain ⟨mark, rfl, isStar⟩ := isMark_of_punct star
  obtain ⟨tree, rfl, solid⟩ := inner.one one (by simp)
  exact .pointerType isStar solid

theorem makes_slice : Makes Types.slice := by
  intro held kind children derives
  obtain ⟨rfl, inside⟩ := inside_of_node derives
  obtain ⟨lefts, rights, elements, left, right, element, rfl⟩ := derives_three inside
  obtain ⟨opening, rfl, opens⟩ := isMark_of_punct left
  obtain ⟨closing, rfl, closes⟩ := isMark_of_punct right
  obtain ⟨tree, rfl, typed⟩ := fills_of_as (by decide) element
  exact .sliceType opens closes typed

theorem makes_array : Makes Types.array := by
  intro held kind children derives
  obtain ⟨rfl, inside⟩ := inside_of_node derives
  obtain ⟨lefts, lengths, rights, elements, left, length, right, element, rfl⟩ :=
    derives_four inside
  obtain ⟨opening, rfl, opens⟩ := isMark_of_punct left
  obtain ⟨size, rfl, sized⟩ := fills_of_as (by decide) length
  obtain ⟨closing, rfl, closes⟩ := isMark_of_punct right
  obtain ⟨tree, rfl, typed⟩ := fills_of_as (by decide) element
  exact .arrayType opens sized closes typed

theorem makes_parenthesized {target : Form} (one : target.givesOne false = true) :
    Makes (Expressions.inParentheses target) := by
  intro held kind children derives
  obtain ⟨rfl, inside⟩ := inside_of_node derives
  obtain ⟨lefts, targets, rights, left, inner, right, rfl⟩ := derives_three inside
  obtain ⟨opening, rfl, opens⟩ := isMark_of_punct left
  obtain ⟨tree, rfl, solid⟩ := inner.one one (by simp)
  obtain ⟨closing, rfl, closes⟩ := isMark_of_punct right
  exact .parenthesizedType opens solid closes

theorem derived_parameters {role : Role}
    (derives : Derives rules held (.as role (.rule .parameters)) trees) :
    ∃ tree, trees = [tree] ∧ IsNode .parameterList role tree :=
  isNode_of_as derives fun inside => isNode_of_rule rfl inside

theorem derived_signature (derives : Derives rules held Types.signature trees) :
    ∃ parameters results, trees = parameters :: results
      ∧ IsNode .parameterList .parameters parameters ∧ AtMostOne (Fills .result) results := by
  obtain ⟨lists, results, list, result, rfl⟩ := derives_seq.1 derives
  obtain ⟨tree, rfl, listed⟩ := derived_parameters list
  refine ⟨tree, results, rfl, listed, ?_⟩
  rcases derives_alt.1 result with some | none
  · exact .inr (fills_of_as (by decide) some)
  · exact .inl (derives_absent.1 none)

theorem makes_function : Makes Types.function := by
  intro held kind children derives
  obtain ⟨rfl, inside⟩ := inside_of_node derives
  obtain ⟨words, others, word, rest, rfl⟩ := derives_seq.1 inside
  obtain ⟨func, rfl, opens⟩ := isMark_of_keyword word
  obtain ⟨parameters, results, rfl, listed, result⟩ := derived_signature rest
  exact .functionType opens listed result

theorem makes_struct : Makes Types.struct := by
  intro held kind children derives
  obtain ⟨rfl, inside⟩ := inside_of_node derives
  obtain ⟨words, others, word, rest, rfl⟩ := derives_seq.1 inside
  obtain ⟨struct, rfl, opens⟩ := isMark_of_keyword word
  obtain ⟨fields, -, rfl⟩ := derives_node.1 rest
  exact .structType opens ⟨fields, rfl⟩

/-- A node of a kind among those that are looked for. -/
theorem item_of_node {kinds : List Kind} {body : Form} (listed : kind ∈ kinds)
    (derives : Derives rules held (.node kind body) trees) :
    ∀ tree ∈ trees, IsItem kinds tree := by
  obtain ⟨children, -, rfl⟩ := derives_node.1 derives
  intro tree member
  obtain rfl := List.mem_singleton.1 member
  exact .inr ⟨kind, listed, children, rfl⟩

theorem derived_field (derives : Derives rules held (.rule .field) trees) :
    ∀ tree ∈ trees, IsItem [.fieldDeclaration] tree := by
  rw [derives_rule] at derives
  rcases derives_alt.1 derives with generic | others
  · exact item_of_node (by simp) generic
  · rcases derives_alt.1 others with named | embedded
    · exact item_of_node (by simp) named
    · exact item_of_node (by simp) embedded

theorem makes_fieldList : Makes Types.fieldList := by
  intro held kind children derives
  obtain ⟨rfl, inside⟩ := inside_of_node derives
  obtain ⟨lefts, middle, rights, left, items, right, rfl⟩ := derives_three inside
  obtain ⟨opening, rfl, opens⟩ := isMark_of_punct left
  obtain ⟨closing, rfl, closes⟩ := isMark_of_punct right
  exact .fieldList opens (items_of_terminated items derived_field) closes

theorem makes_interface : Makes Types.interface := by
  intro held kind children derives
  obtain ⟨rfl, inside⟩ := inside_of_node derives
  obtain ⟨words, lefts, middle, rights, word, left, -, right, rfl⟩ := derives_four inside
  obtain ⟨interface, rfl, isWord⟩ := isMark_of_keyword word
  obtain ⟨opening, rfl, opens⟩ := isMark_of_punct left
  obtain ⟨closing, rfl, closes⟩ := isMark_of_punct right
  exact .interfaceType isWord opens closes

def sharedParameter : Form :=
  .node .parameterDeclaration <| .sequence
    [.as .name (.leaf .identifier (.name typeWords)),
     .many (.seq (.punct ",") (.as .name (Types.anyName .identifier))), .as .type (.rule .type)]

theorem makes_sharedParameter : Makes sharedParameter := by
  intro held kind children derives
  obtain ⟨rfl, inside⟩ := inside_of_node derives
  obtain ⟨firsts, more, targets, first, many, target, rfl⟩ := derives_three inside
  obtain ⟨tree, rfl, named⟩ := isLeaf_of_as (by decide) first
  obtain ⟨last, rfl, typed⟩ := fills_of_as (by decide) target
  have names := separated_of_many named many (isLeaf_of_as (by decide))
  exact .parameterDeclaration (.inr names) typed

theorem makes_lonelyType : Makes Types.lonelyType := by
  intro held kind children derives
  obtain ⟨rfl, inside⟩ := inside_of_node derives
  obtain ⟨tree, rfl, typed⟩ := fills_of_as (by decide) inside
  exact .parameterDeclaration (.inl rfl) typed

theorem makes_variadicParameter : Makes Types.variadicParameter := by
  intro held kind children derives
  obtain ⟨rfl, inside⟩ := inside_of_node derives
  obtain ⟨names, marks, targets, optional, mark, target, rfl⟩ := derives_three inside
  obtain ⟨dots, rfl, isDots⟩ := isMark_of_punct mark
  obtain ⟨tree, rfl, typed⟩ := fills_of_as (by decide) target
  exact .variadicParameter (atMostOne_of_optional optional (isLeaf_of_as (by decide))) isDots typed

theorem derived_parameter (derives : Derives rules held Types.parameter trees) :
    ∃ tree, trees = [tree] ∧ isParameterNode tree := by
  rcases derives_alt.1 derives with named | others
  · obtain ⟨before, nodes, after, absent, node, ahead, rfl⟩ := derives_three named
    obtain ⟨children, -, rfl⟩ := derives_node.1 node
    rw [derives_absent.1 absent, derives_ahead.1 ahead]
    exact ⟨_, rfl, .inl ⟨children, rfl⟩⟩
  · rcases derives_alt.1 others with variadic | lonely
    · obtain ⟨children, -, rfl⟩ := derives_node.1 variadic
      exact ⟨_, rfl, .inr ⟨children, rfl⟩⟩
    · obtain ⟨children, -, rfl⟩ := derives_node.1 lonely
      exact ⟨_, rfl, .inl ⟨children, rfl⟩⟩

theorem makes_parameters : Makes Types.parameters := by
  intro held kind children derives
  obtain ⟨rfl, inside⟩ := inside_of_node derives
  obtain ⟨lefts, middle, commas, rights, left, items, comma, right, rfl⟩ := derives_four inside
  obtain ⟨opening, rfl, opens⟩ := isMark_of_punct left
  obtain ⟨closing, rfl, closes⟩ := isMark_of_punct right
  have listed : Listed isParameterNode middle := by
    rcases derives_alt.1 items with some | none
    · exact .inr (separated_of_seq some derived_parameter derived_parameter)
    · exact .inl (derives_empty.1 none)
  have trailing := atMostOne_of_optional comma isMark_of_punct
  exact .parameterList opens listed trailing closes

/-- A literal text in a role. -/
theorem isLeaf_of_string {role : Role} (derives : Derives rules held (.as role Types.string) trees) :
    ∃ tree, trees = [tree] ∧ IsLeaf role tree := by
  obtain ⟨inner, inside, rfl⟩ := derives_as.1 derives
  rcases derives_alt.1 inside with quoted | raw
  · obtain ⟨token, -, -, rfl⟩ := derives_leaf.1 quoted
    exact ⟨_, rfl, _, token, rfl, by decide⟩
  · obtain ⟨token, -, -, rfl⟩ := derives_leaf.1 raw
    exact ⟨_, rfl, _, token, rfl, by decide⟩

theorem derived_tag (derives : Derives rules held Types.tag trees) :
    AtMostOne (IsLeaf .tag) trees := atMostOne_of_optional derives isLeaf_of_string

theorem makes_embeddedGeneric : Makes (.node .fieldDeclaration Types.embeddedGeneric) := by
  intro held kind children derives
  obtain ⟨rfl, inside⟩ := inside_of_node derives
  obtain ⟨stars, targets, tags, nothing, star, target, tag, ahead, rfl⟩ := derives_four inside
  obtain ⟨tree, rfl, typed⟩ := fills_of_as (by decide) target
  have pointed := atMostOne_of_optional star isMark_of_punct
  rw [derives_ahead.1 ahead, List.append_nil]
  exact .embeddedField pointed typed (derived_tag tag)

theorem makes_embeddedField : Makes (.node .fieldDeclaration Types.embeddedField) := by
  intro held kind children derives
  obtain ⟨rfl, inside⟩ := inside_of_node derives
  obtain ⟨stars, targets, tags, star, target, tag, rfl⟩ := derives_three inside
  obtain ⟨tree, rfl, typed⟩ := fills_of_as (by decide) target
  have pointed := atMostOne_of_optional star isMark_of_punct
  exact .embeddedField pointed typed (derived_tag tag)

theorem makes_namedField : Makes (.node .fieldDeclaration Types.namedField) := by
  intro held kind children derives
  obtain ⟨rfl, inside⟩ := inside_of_node derives
  obtain ⟨firsts, nothing, more, targets, tags, first, joined, many, target, tag, rfl⟩ :=
    derives_five inside
  obtain ⟨tree, rfl, named⟩ := isLeaf_of_as (by decide) first
  obtain rfl := derives_joined.1 joined
  obtain ⟨last, rfl, typed⟩ := fills_of_as (by decide) target
  have names := separated_of_many named many (isLeaf_of_as (by decide))
  exact .namedField names typed (derived_tag tag)

theorem makes_selector : Makes Expressions.selector := by
  intro held kind children derives
  obtain ⟨rfl, inside⟩ := inside_of_node derives
  obtain ⟨operands, dots, fields, operand, dot, field, rfl⟩ := derives_three inside
  obtain ⟨inner, -, rfl⟩ := derives_as.1 operand
  obtain ⟨mark, rfl, isDot⟩ := isMark_of_punct dot
  obtain ⟨tree, rfl, named⟩ := isLeaf_of_as (by decide) field
  exact .selectorExpression (roles_of_map inner) isDot named

theorem derived_arguments (derives : Derives rules held (.as .arguments (.rule .arguments)) trees) :
    ∃ tree, trees = [tree] ∧ IsNode .argumentList .arguments tree :=
  isNode_of_as derives fun inside => isNode_of_rule rfl inside

theorem makes_call : Makes Expressions.call := by
  intro held kind children derives
  obtain ⟨rfl, inside⟩ := inside_of_node derives
  obtain ⟨functions, lists, function, list, rfl⟩ := derives_seq.1 inside
  obtain ⟨inner, -, rfl⟩ := derives_as.1 function
  obtain ⟨tree, rfl, listed⟩ := derived_arguments list
  exact .callExpression (roles_of_map inner) (List.forall_mem_nil _) listed

theorem makes_instantiatedCall : Makes Expressions.instantiatedCall := by
  intro held kind children derives
  obtain ⟨rfl, inside⟩ := inside_of_node derives
  obtain ⟨functions, generics, lists, function, generic, list, rfl⟩ := derives_three inside
  obtain ⟨inner, -, rfl⟩ := derives_as.1 function
  obtain ⟨types, -, rfl⟩ := derives_as.1 generic
  obtain ⟨tree, rfl, listed⟩ := derived_arguments list
  exact .callExpression (roles_of_map inner) (roles_of_map types) listed

def allocatorCall : Form :=
  .node .callExpression <| .sequence
    [.as .function Expressions.allocator, .joined, .as .arguments Expressions.typeFirstArguments]

theorem makes_allocatorCall : Makes allocatorCall := by
  intro held kind children derives
  obtain ⟨rfl, inside⟩ := inside_of_node derives
  obtain ⟨functions, nothing, lists, function, joined, list, rfl⟩ := derives_three inside
  obtain ⟨inner, -, rfl⟩ := derives_as.1 function
  obtain rfl := derives_joined.1 joined
  obtain ⟨tree, rfl, listed⟩ := isNode_of_as list isNode_of_node
  exact .callExpression (roles_of_map inner) (List.forall_mem_nil _) listed

theorem derived_one {g : Form} (one : g.givesOne false = true)
    (derives : Derives rules held g trees) : ∃ tree, trees = [tree] ∧ Solid tree :=
  derives.one one (by simp)

theorem makes_arguments : Makes Expressions.arguments := by
  intro held kind children derives
  obtain ⟨rfl, inside⟩ := inside_of_node derives
  obtain ⟨lefts, middle, rights, left, items, right, rfl⟩ := derives_three inside
  obtain ⟨opening, rfl, opens⟩ := isMark_of_punct left
  obtain ⟨closing, rfl, closes⟩ := isMark_of_punct right
  rcases derives_alt.1 items with some | none
  · obtain ⟨listed, commas, list, comma, rfl⟩ := derives_seq.1 some
    have separated := separated_of_seq list (derived_one (by decide)) (derived_one (by decide))
    have trailing := atMostOne_of_optional comma isMark_of_punct
    rw [List.append_assoc]
    exact .argumentList opens (.inr separated) trailing closes
  · obtain rfl := derives_empty.1 none
    exact .argumentList opens (.inl rfl) (.inl rfl) closes

theorem makes_typeFirstArguments : Makes Expressions.typeFirstArguments := by
  intro held kind children derives
  obtain ⟨rfl, inside⟩ := inside_of_node derives
  obtain ⟨lefts, middle, rights, left, items, right, rfl⟩ := derives_three inside
  obtain ⟨opening, rfl, opens⟩ := isMark_of_punct left
  obtain ⟨closing, rfl, closes⟩ := isMark_of_punct right
  rcases derives_alt.1 items with some | none
  · obtain ⟨firsts, more, commas, first, many, comma, rfl⟩ := derives_three some
    obtain ⟨tree, rfl, solid⟩ := derived_one (by decide) first
    have separated := separated_of_many solid many (derived_one (by decide))
    have trailing := atMostOne_of_optional comma isMark_of_punct
    have shape : [opening] ++ ([tree] ++ (more ++ commas) ++ [closing]) =
        opening :: ((tree :: more) ++ (commas ++ [closing])) := by simp
    rw [shape]
    exact .argumentList opens (.inr separated) trailing closes
  · obtain rfl := derives_empty.1 none
    exact .argumentList opens (.inl rfl) (.inl rfl) closes

theorem makes_parenthesizedExpression : Makes Expressions.parenthesized := by
  intro held kind children derives
  obtain ⟨rfl, inside⟩ := inside_of_node derives
  obtain ⟨lefts, inners, rights, left, inner, right, rfl⟩ := derives_three inside
  obtain ⟨opening, rfl, opens⟩ := isMark_of_punct left
  obtain ⟨tree, rfl, solid⟩ := derived_one (by decide) inner
  obtain ⟨closing, rfl, closes⟩ := isMark_of_punct right
  exact .parenthesizedExpression opens solid closes

theorem makes_block : Makes Statements.block := by
  intro held kind children derives
  obtain ⟨rfl, inside⟩ := inside_of_node derives
  obtain ⟨lefts, middle, rights, left, -, right, rfl⟩ := derives_three inside
  obtain ⟨opening, rfl, opens⟩ := isMark_of_punct left
  obtain ⟨closing, rfl, closes⟩ := isMark_of_punct right
  exact .block opens closes

def returnForm (place : Place) : Form :=
  .node .returnStatement <|
    .seq (.keyword "return") (.optional (.seq (Statements.notClause place) Expressions.list))

theorem makes_return (place : Place) : Makes (returnForm place) := by
  intro held kind children derives
  obtain ⟨rfl, inside⟩ := inside_of_node derives
  obtain ⟨words, others, word, rest, rfl⟩ := derives_seq.1 inside
  obtain ⟨tree, rfl, opens⟩ := isMark_of_keyword word
  rcases derives_alt.1 rest with some | none
  · obtain ⟨nothing, lists, absent, list, rfl⟩ := derives_seq.1 some
    obtain ⟨values, separated, rfl⟩ := derives_node.1 list
    obtain rfl := derives_absent.1 absent
    exact .returnStatement opens
      (separated_of_seq separated (derived_one (by decide)) (derived_one (by decide)))
  · obtain rfl := derives_empty.1 none
    exact .returnNothing opens

theorem makes_package : Makes Statements.package := by
  intro held kind children derives
  obtain ⟨rfl, inside⟩ := inside_of_node derives
  obtain ⟨words, names, word, name, rfl⟩ := derives_seq.1 inside
  obtain ⟨tree, rfl, opens⟩ := isMark_of_keyword word
  obtain ⟨token, -, -, rfl⟩ := derives_leaf.1 name
  exact .package opens ⟨_, token, rfl, by decide⟩ rfl

theorem derived_importName (derives : Derives rules held Statements.importName trees) :
    ∃ tree, trees = [tree] ∧ IsLeaf .name tree := by
  obtain ⟨inner, inside, rfl⟩ := derives_as.1 derives
  rcases derives_alt.1 inside with dot | others
  · obtain ⟨token, -, -, rfl⟩ := derives_leaf.1 dot
    exact ⟨_, rfl, _, token, rfl, by decide⟩
  · rcases derives_alt.1 others with blank | name
    · obtain ⟨token, -, -, rfl⟩ := derives_leaf.1 blank
      exact ⟨_, rfl, _, token, rfl, by decide⟩
    · obtain ⟨token, -, -, rfl⟩ := derives_leaf.1 name
      exact ⟨_, rfl, _, token, rfl, by decide⟩

theorem makes_importSpec : Makes Statements.importSpec := by
  intro held kind children derives
  obtain ⟨rfl, inside⟩ := inside_of_node derives
  obtain ⟨names, paths, name, path, rfl⟩ := derives_seq.1 inside
  obtain ⟨tree, rfl, pathed⟩ := isLeaf_of_string path
  exact .importSpec (atMostOne_of_optional name derived_importName) pathed

theorem derived_importSpec (derives : Derives rules held (.rule .importSpec) trees) :
    ∀ tree ∈ trees, IsItem [.importSpec] tree := by
  rw [derives_rule] at derives
  exact item_of_node (by simp) derives

theorem makes_importList : Makes Statements.importList := by
  intro held kind children derives
  obtain ⟨rfl, inside⟩ := inside_of_node derives
  obtain ⟨lefts, middle, rights, left, items, right, rfl⟩ := derives_three inside
  obtain ⟨opening, rfl, opens⟩ := isMark_of_punct left
  obtain ⟨closing, rfl, closes⟩ := isMark_of_punct right
  exact .importSpecList opens (items_of_terminated items derived_importSpec) closes

theorem makes_importDeclaration : Makes Statements.importDeclaration := by
  intro held kind children derives
  obtain ⟨rfl, inside⟩ := inside_of_node derives
  obtain ⟨words, others, word, rest, rfl⟩ := derives_seq.1 inside
  obtain ⟨tree, rfl, opens⟩ := isMark_of_keyword word
  rcases derives_alt.1 rest with list | spec
  · obtain ⟨specs, -, rfl⟩ := derives_node.1 list
    exact .importDeclaration opens (.inl ⟨specs, rfl⟩)
  · obtain ⟨tree, rfl, isSpec⟩ := isNode_of_rule rfl spec
    exact .importDeclaration opens (.inr isSpec)

theorem makes_typeAlias : Makes Statements.typeAlias := by
  intro held kind children derives
  obtain ⟨rfl, inside⟩ := inside_of_node derives
  obtain ⟨names, marks, targets, name, mark, target, rfl⟩ := derives_three inside
  obtain ⟨tree, rfl, named⟩ := isLeaf_of_as (by decide) name
  obtain ⟨equals, rfl, isMark⟩ := isMark_of_punct mark
  obtain ⟨last, rfl, typed⟩ := fills_of_as (by decide) target
  exact .typeAlias named isMark typed

def parametrized : Form :=
  .seq (.as .typeParameters (Types.typeParameters expressionWords)) (.as .type (.rule .type))

def specForm (grouped : Bool) : Form :=
  .node .typeSpec <| .seq (.as .name (Types.anyName .typeIdentifier)) <| .choice
    [.seq (.ahead (Statements.longConstraint grouped)) parametrized, .as .type (.rule .type),
     parametrized]

theorem makes_spec (grouped : Bool) : Makes (specForm grouped) := by
  intro held kind children derives
  obtain ⟨rfl, inside⟩ := inside_of_node derives
  obtain ⟨names, others, name, rest, rfl⟩ := derives_seq.1 inside
  obtain ⟨tree, rfl, named⟩ := isLeaf_of_as (by decide) name
  have generic {trees : List Tree} (derives : Derives rules held parametrized trees) :
      Formed .typeSpec (tree :: trees) := by
    obtain ⟨lists, targets, list, target, rfl⟩ := derives_seq.1 derives
    obtain ⟨parameters, rfl, listed⟩ := fills_of_as (by decide) list
    obtain ⟨last, rfl, typed⟩ := fills_of_as (by decide) target
    exact .typeSpec named (.inr ⟨parameters, rfl, listed⟩) typed
  rcases derives_alt.1 rest with long | others
  · obtain ⟨nothing, inner, ahead, derived, rfl⟩ := derives_seq.1 long
    obtain rfl := derives_ahead.1 ahead
    exact generic derived
  · rcases derives_alt.1 others with plain | short
    · obtain ⟨last, rfl, typed⟩ := fills_of_as (by decide) plain
      exact .typeSpec named (.inl rfl) typed
    · exact generic short

def typeDeclarationForm : Form :=
  .node .typeDeclaration <| .seq (.keyword "type")
    (.alt (Statements.group (.rule (.typeSpec true))) (.rule (.typeSpec false)))

theorem derived_spec {grouped : Bool} (derives : Derives rules held (.rule (.typeSpec grouped)) trees) :
    ∃ tree, trees = [tree] ∧ (IsNode .typeSpec .plain tree ∨ IsNode .typeAlias .plain tree) := by
  rw [derives_rule] at derives
  rcases derives_alt.1 derives with renamed | spec
  · obtain ⟨children, -, rfl⟩ := derives_node.1 renamed
    exact ⟨_, rfl, .inr ⟨children, rfl⟩⟩
  · obtain ⟨children, -, rfl⟩ := derives_node.1 spec
    exact ⟨_, rfl, .inl ⟨children, rfl⟩⟩

theorem makes_typeDeclaration : Makes typeDeclarationForm := by
  intro held kind children derives
  obtain ⟨rfl, inside⟩ := inside_of_node derives
  obtain ⟨words, others, word, rest, rfl⟩ := derives_seq.1 inside
  obtain ⟨tree, rfl, opens⟩ := isMark_of_keyword word
  rcases derives_alt.1 rest with group | single
  · obtain ⟨lefts, middle, rights, left, many, right, rfl⟩ := derives_three group
    obtain ⟨opening, rfl, isLeft⟩ := isMark_of_punct left
    obtain ⟨closing, rfl, closes⟩ := isMark_of_punct right
    refine .typeGroup opens isLeft (fun spec member => ?_) closes
    obtain ⟨parts, rfl, each⟩ := derives_many many
    obtain ⟨part, among, inside⟩ := List.mem_flatten.1 member
    obtain ⟨specs, ends, derived, terminator, rfl⟩ := derives_seq.1 (each part among)
    rcases List.mem_append.1 inside with early | late
    · obtain ⟨tree, rfl, isSpec⟩ := derived_spec derived
      obtain rfl := List.mem_singleton.1 early
      exact .inr (isSpec.elim (fun node => ⟨_, by simp, node⟩) fun node => ⟨_, by simp, node⟩)
    · cases terminator with
      | ended => simp at late
      | terminator => exact .inl (by simp_all [Tree.isNamed, Tree.kind])
  · obtain ⟨tree, rfl, isSpec⟩ := derived_spec single
    exact .typeDeclaration opens isSpec

theorem derived_body (derives : Derives rules held Statements.body trees) :
    AtMostOne (IsNode .block .body) trees :=
  atMostOne_of_optional derives fun body => isNode_of_as body fun inside => isNode_of_rule rfl inside

theorem makes_functionDeclaration : Makes Statements.functionDeclaration := by
  intro held kind children derives
  obtain ⟨rfl, inside⟩ := inside_of_node derives
  obtain ⟨words, names, generics, signatures, bodies, word, name, generic, signature, body, rfl⟩ :=
    derives_five inside
  obtain ⟨func, rfl, opens⟩ := isMark_of_keyword word
  obtain ⟨tree, rfl, named⟩ := isLeaf_of_as (by decide) name
  have typeParameters := atMostOne_of_optional generic (fills_of_as (by decide))
  obtain ⟨parameters, results, rfl, listed, result⟩ := derived_signature signature
  exact .functionDeclaration opens named typeParameters listed result (derived_body body)

theorem makes_methodDeclaration : Makes Statements.methodDeclaration := by
  intro held kind children derives
  obtain ⟨rfl, inside⟩ := inside_of_node derives
  obtain ⟨words, receivers, names, signatures, bodies, word, receiver, name, signature, body, rfl⟩ :=
    derives_five inside
  obtain ⟨func, rfl, opens⟩ := isMark_of_keyword word
  obtain ⟨first, rfl, received⟩ := derived_parameters receiver
  obtain ⟨tree, rfl, named⟩ := isLeaf_of_as (by decide) name
  obtain ⟨parameters, results, rfl, listed, result⟩ := derived_signature signature
  exact .methodDeclaration opens received named listed result (derived_body body)

end Forms

def declarationKinds : List Kind :=
  [.packageClause, .importDeclaration, .typeDeclaration, .functionDeclaration, .methodDeclaration]

def laidKinds : List Kind :=
  [.packageClause, .importDeclaration, .importSpecList, .importSpec, .typeDeclaration, .typeSpec,
   .typeAlias, .functionDeclaration, .methodDeclaration, .parameterList, .parameterDeclaration,
   .variadicParameterDeclaration, .fieldDeclaration, .fieldDeclarationList, .structType,
   .interfaceType, .functionType, .pointerType, .sliceType, .arrayType, .qualifiedType,
   .parenthesizedType, .selectorExpression, .callExpression, .argumentList,
   .parenthesizedExpression, .block, .returnStatement]

def laidForms : List Form :=
  [Types.qualifiedName typeWords, Types.qualifiedName expressionWords, Types.qualifiedName [],
   Expressions.pointerTo (.rule .type), Expressions.pointerTo (.rule .typeOperand),
   Expressions.pointerTo (.rule .markedCore), Expressions.pointerTo (.rule .genericCore),
   Expressions.inParentheses (.rule .type), Expressions.inParentheses (.rule .typeOperand),
   Expressions.inParentheses (.rule .markedCore), Expressions.inParentheses (.rule .genericCore),
   Types.slice, Types.array, Types.function, Types.struct, Types.fieldList, Types.interface,
   Types.parameters, sharedParameter, Types.variadicParameter, Types.lonelyType,
   .node .fieldDeclaration Types.embeddedGeneric, .node .fieldDeclaration Types.namedField,
   .node .fieldDeclaration Types.embeddedField,
   Expressions.selector, Expressions.call, Expressions.instantiatedCall, allocatorCall,
   Expressions.arguments, Expressions.typeFirstArguments, Expressions.parenthesized,
   Statements.block, returnForm .top, returnForm .block, returnForm .clause, Statements.package,
   Statements.importSpec, Statements.importList, Statements.importDeclaration,
   Statements.typeAlias, specForm true, specForm false, typeDeclarationForm,
   Statements.functionDeclaration, Statements.methodDeclaration]

theorem laidForms_make : ∀ g ∈ laidForms, Makes g := by
  simp only [laidForms, List.forall_mem_cons, List.not_mem_nil, false_implies, implies_true, and_true]
  exact ⟨makes_qualified _, makes_qualified _, makes_qualified _, makes_pointer rfl,
    makes_pointer rfl, makes_pointer rfl, makes_pointer rfl, makes_parenthesized rfl,
    makes_parenthesized rfl, makes_parenthesized rfl, makes_parenthesized rfl, makes_slice,
    makes_array, makes_function, makes_struct, makes_fieldList, makes_interface, makes_parameters,
    makes_sharedParameter, makes_variadicParameter, makes_lonelyType, makes_embeddedGeneric,
    makes_namedField, makes_embeddedField, makes_selector, makes_call, makes_instantiatedCall,
    makes_allocatorCall, makes_arguments, makes_typeFirstArguments, makes_parenthesizedExpression,
    makes_block, makes_return _, makes_return _, makes_return _, makes_package, makes_importSpec,
    makes_importList, makes_importDeclaration, makes_typeAlias, makes_spec _, makes_spec _,
    makes_typeDeclaration, makes_functionDeclaration, makes_methodDeclaration⟩

/-- Whether an expression makes nodes that are laid out by these forms only, and no leaves of their
kinds. -/
def isCovered (g : Form) : Bool :=
  (g.leaves.all fun entry => !laidKinds.contains entry.1)
    && g.nodes.all fun entry =>
      !laidKinds.contains entry.1 || laidForms.contains (.node entry.1 entry.2)

theorem rules_covered (name : Rule) : isCovered (rules name) = true :=
  Rule.forall_of_list (p := fun name => isCovered (rules name)) (by decide +kernel) name

theorem source_covered : isCovered Statements.source = true := by decide +kernel

/-- Every tree that is laid out, at the root of a tree or below it, is a node and formed. -/
inductive WellFormed : Tree → Prop where
  | leaf {kind role token} (other : kind ∉ laidKinds) : WellFormed (.leaf kind role token)
  | node {kind role children} (formed : kind ∈ laidKinds → Formed kind children)
      (below : ∀ child ∈ children, WellFormed child) : WellFormed (.node kind role children)

theorem keeps_of_covered {g : Form} (covered : isCovered g = true) : g.Keeps rules WellFormed := by
  simp only [isCovered, Bool.and_eq_true, List.all_eq_true] at covered
  constructor
  · intro entry member role token _ _
    exact .leaf (by simpa using covered.1 entry member)
  · intro entry member role held children derives below
    refine .node (fun laid => ?_) below
    -- the node is one of the forms that were inverted above
    have listed := covered.2 entry member
    simp only [List.contains_eq_mem, laid, decide_true, Bool.not_true, Bool.false_or,
      decide_eq_true_eq] at listed
    exact laidForms_make _ listed held entry.1 children (.node derives)

/-- The trees of a source are well formed. -/
theorem parse_wellFormed {text : String} {source : Source} (parsed : Source.parse? text = some source) :
    ∀ tree ∈ source.trees, WellFormed tree :=
  Source.parse_forall parsed (fun name => keeps_of_covered (rules_covered name))
    (keeps_of_covered source_covered) (fun _ => .leaf (by decide)) fun role tree wellFormed => by
      cases wellFormed with
      | leaf other => exact .leaf other
      | node formed below => exact .node formed below

end InterfaceMocks.Grammar
