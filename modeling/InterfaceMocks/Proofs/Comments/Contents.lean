import InterfaceMocks.Proofs.Comments.Thinning
import InterfaceMocks.Proofs.Extraction.Identifiers
import Mathlib.Data.List.Forall2

/-!
What comments change in the contents of a file. Names, paths and literals are single tokens, and
everything else is found by its role or kind, which comments leave alone. The one place where a comment
counts is after the `*` of a pointer type: there it is taken for the type that is pointed to. So a
space in the place of a general comment leaves the contents as they are, unless the comment follows a
`*`, and then it can only uncover types that were not recognised.
-/

namespace InterfaceMocks.Comments

open InterfaceMocks.Syntax InterfaceMocks.Grammar InterfaceMocks.Extraction
open InterfaceMocks.Layout (unspaced)

/-! Contents that say more. -/

/-- The second type is the first, but for targets of pointers which the first does not recognise; there
are such differences only if `covered` holds. -/
inductive Uncovers (covered : Prop) : TypeExpr → TypeExpr → Prop where
  | same (expr : TypeExpr) : Uncovers covered expr expr
  | pointer {inner inner'} (below : Uncovers covered inner inner') :
      Uncovers covered (.pointer inner) (.pointer inner')
  | array (length : Option String) {element element'} (below : Uncovers covered element element') :
      Uncovers covered (.array length element) (.array length element')
  | target (allowed : covered) (inner : TypeExpr) :
      Uncovers covered (.pointer .unrecognised) (.pointer inner)

structure UncoversParam (covered : Prop) (param param' : Param) : Prop where
  name : param'.name = param.name
  type : Uncovers covered param.type param'.type

structure UncoversMethod (covered : Prop) (method method' : Method) : Prop where
  name : method'.name = method.name
  args : List.Forall₂ (UncoversParam covered) method.args method'.args
  returns : List.Forall₂ (UncoversParam covered) method.returns method'.returns

structure UncoversInterface (covered : Prop) (interface interface' : Interface) : Prop where
  name : interface'.name = interface.name
  methods : List.Forall₂ (UncoversMethod covered) interface.methods interface'.methods

theorem forall_eq {α : Type} {relates : α → α → Prop} (each : ∀ x y, relates x y → y = x)
    {xs ys : List α} (related : List.Forall₂ relates xs ys) : ys = xs := by
  induction related with
  | nil => rfl
  | cons first _ ih => rw [each _ _ first, ih]

section Equal

variable {covered : Prop} (none : ¬ covered)

include none

theorem Uncovers.eq {expr expr' : TypeExpr} (uncovers : Uncovers covered expr expr') :
    expr' = expr := by
  induction uncovers with
  | same => rfl
  | pointer _ ih => rw [ih]
  | array _ _ ih => rw [ih]
  | target allowed => exact absurd allowed none

theorem UncoversParam.eq {param param' : Param} (uncovers : UncoversParam covered param param') :
    param' = param := by
  have name := uncovers.name
  have type := uncovers.type.eq none
  cases param
  cases param'
  dsimp only at name type
  rw [name, type]

theorem UncoversMethod.eq {method method' : Method}
    (uncovers : UncoversMethod covered method method') : method' = method := by
  have name := uncovers.name
  have args := forall_eq (fun _ _ => UncoversParam.eq none) uncovers.args
  have returns := forall_eq (fun _ _ => UncoversParam.eq none) uncovers.returns
  cases method
  cases method'
  dsimp only at name args returns
  rw [name, args, returns]

theorem UncoversInterface.eq {interface interface' : Interface}
    (uncovers : UncoversInterface covered interface interface') : interface' = interface := by
  have name := uncovers.name
  have methods := forall_eq (fun _ _ => UncoversMethod.eq none) uncovers.methods
  cases interface
  cases interface'
  dsimp only at name methods
  rw [name, methods]

end Equal

/-! Literals are leaves. -/

/-- Trees in which numbers, characters and strings are leaves. -/
inductive Atomic : Tree → Prop where
  | leaf {kind role token} : Atomic (.leaf kind role token)
  | node {kind role children} (other : kind.isBasicLiteral = false)
      (below : ∀ child ∈ children, Atomic child) : Atomic (.node kind role children)

def isAtomic (g : Form) : Bool := g.nodes.all fun entry => !entry.1.isBasicLiteral

theorem keeps_of_atomic {g : Form} (atomic : isAtomic g = true) : g.Keeps rules Atomic := by
  simp only [isAtomic, List.all_eq_true, Bool.not_eq_true'] at atomic
  exact ⟨fun _ _ _ _ _ _ => .leaf, fun entry member _ _ _ _ below => .node (atomic entry member) below⟩

theorem rules_atomic (name : Rule) : isAtomic (rules name) = true :=
  Rule.forall_of_list (p := fun name => isAtomic (rules name)) (by decide +kernel) name

theorem parse_atomic {text : String} {source : Source} (parsed : Source.parse? text = some source) :
    ∀ tree ∈ source.trees, Atomic tree :=
  Source.parse_forall parsed (fun name => keeps_of_atomic (rules_atomic name))
    (keeps_of_atomic (by decide +kernel)) (fun _ => .leaf) fun role tree atomic => by
      cases atomic with
      | leaf => exact .leaf
      | node other below => exact .node other below

structure Known (tree : Tree) : Prop where
  wellFormed : WellFormed tree
  spelled : Spelled tree
  atomic : Atomic tree

theorem parse_known {text : String} {source : Source} (parsed : Source.parse? text = some source) :
    ∀ tree ∈ source.trees, Known tree := fun tree member =>
  ⟨parse_wellFormed parsed tree member, parse_spelled parsed tree member,
    parse_atomic parsed tree member⟩

theorem Known.child {tree child : Tree} (known : Known tree) (member : child ∈ tree.children) :
    Known child := by
  obtain ⟨wellFormed, spelled, atomic⟩ := known
  refine ⟨?_, spelled.child member, ?_⟩
  · cases wellFormed with
    | leaf => simp [Tree.children] at member
    | node _ below => exact below child member
  · cases atomic with
    | leaf => simp [Tree.children] at member
    | node _ below => exact below child member

theorem Known.formed {tree : Tree} (known : Known tree) (laid : tree.kind ∈ laidKinds) :
    Formed tree.kind tree.children := by
  cases known.wellFormed with
  | leaf other => exact absurd laid other
  | node formed _ => exact formed laid

theorem Known.literal {tree : Tree} (known : Known tree) (literal : tree.kind.isBasicLiteral = true) :
    IsLeafOf [tree.kind] tree := by
  cases known.atomic with
  | leaf => exact ⟨_, _, _, rfl, by simp [Tree.kind]⟩
  | node other => simp [Tree.kind, other] at literal

/-! Trees. -/

/-- A tree of a source and the same tree, but for comments. -/
structure Bared (covered : Prop) (tree tree' : Tree) : Prop where
  known : Known tree
  same : unspaced tree' = unspaced tree
  tokens : ∃ starred, Thinned covered starred tree.tokens tree'.tokens

variable {covered : Prop}

theorem bared_all {starred : Bool} {trees trees' : List Tree} (known : ∀ tree ∈ trees, Known tree)
    (same : trees'.map unspaced = trees.map unspaced)
    (thinned : Thinned covered starred (Tree.tokensOf trees) (Tree.tokensOf trees')) :
    List.Forall₂ (Bared covered) trees trees' := by
  induction trees generalizing trees' starred with
  | nil =>
      obtain rfl : trees' = [] := by simpa using same
      exact .nil
  | cons tree rest ih =>
      cases trees' with
      | nil => simp at same
      | cons tree' rest' =>
          simp only [List.map_cons, List.cons.injEq] at same
          have size : tree.tokens.length = tree'.tokens.length := by
            have single : [tree'].map unspaced = [tree].map unspaced := by simp [same.1]
            simpa using tokens_length single
          obtain ⟨first, second⟩ := Thinned.split size thinned
          exact .cons ⟨known tree List.mem_cons_self, same.1, _, first⟩
            (ih (fun other member => known other (List.mem_cons_of_mem _ member)) same.2 second)

namespace Bared

variable {tree tree' : Tree} (bared : Bared covered tree tree')

include bared

theorem kind : tree'.kind = tree.kind := by
  have same := congrArg Tree.kind bared.same
  cases tree <;> cases tree' <;> simpa [unspaced, Tree.kind] using same

theorem role : tree'.role = tree.role := by
  have same := congrArg Tree.role bared.same
  cases tree <;> cases tree' <;> simpa [unspaced, Tree.role] using same

theorem isNamed : tree'.isNamed = tree.isNamed := by
  rw [Tree.isNamed, Tree.isNamed, bared.kind]

end Bared

theorem Bared.leaf {kind : Kind} {role : Role} {token : Token} {tree' : Tree}
    (bared : Bared covered (.leaf kind role token) tree') :
    ∃ token', tree' = .leaf kind role token' ∧ token'.text = token.text := by
  have same := bared.same
  cases tree' with
  | leaf kind' role' token' =>
      simp only [unspaced, Layout.unspacedToken, Tree.leaf.injEq, Token.mk.injEq] at same
      obtain ⟨rfl, rfl, -, -, text⟩ := same
      exact ⟨token', rfl, text⟩
  | node => simp [unspaced] at same

theorem Bared.node {kind : Kind} {role : Role} {children : List Tree} {tree' : Tree}
    (bared : Bared covered (.node kind role children) tree') :
    ∃ children', tree' = .node kind role children'
      ∧ List.Forall₂ (Bared covered) children children' := by
  obtain ⟨known, same, starred, thinned⟩ := bared
  cases tree' with
  | leaf => simp [unspaced] at same
  | node kind' role' children' =>
      simp only [unspaced, Tree.node.injEq, Layout.unspacedAll_eq] at same
      obtain ⟨rfl, rfl, below⟩ := same
      exact ⟨children', rfl, bared_all (fun child member => known.child member) below thinned⟩

theorem Bared.children {tree tree' : Tree} (bared : Bared covered tree tree') :
    List.Forall₂ (Bared covered) tree.children tree'.children := by
  cases tree with
  | leaf kind role token =>
      obtain ⟨token', rfl, -⟩ := bared.leaf
      exact .nil
  | node kind role children =>
      obtain ⟨children', rfl, each⟩ := bared.node
      exact each

theorem Bared.text {tree tree' : Tree} {kinds : List Kind} (bared : Bared covered tree tree')
    (leaf : IsLeafOf kinds tree) : tree'.text = tree.text := by
  obtain ⟨kind, role, token, rfl, -⟩ := leaf
  obtain ⟨token', rfl, same⟩ := bared.leaf
  simp [same]

theorem find_bared {p : Tree → Bool} (respects : ∀ tree tree', Bared covered tree tree' → p tree' = p tree)
    {trees trees' : List Tree} (each : List.Forall₂ (Bared covered) trees trees') :
    (trees.find? p = none ∧ trees'.find? p = none)
      ∨ ∃ tree tree', trees.find? p = some tree ∧ trees'.find? p = some tree'
        ∧ Bared covered tree tree' := by
  induction each with
  | nil => exact .inl ⟨rfl, rfl⟩
  | @cons tree tree' rest rest' first _ ih =>
      have same := respects _ _ first
      by_cases holds : p tree = true
      · rw [List.find?_cons_of_pos holds, List.find?_cons_of_pos (by rw [same, holds])]
        exact .inr ⟨tree, tree', rfl, rfl, first⟩
      · rw [List.find?_cons_of_neg holds, List.find?_cons_of_neg (by rw [same]; exact holds)]
        exact ih

theorem child_bared {tree tree' : Tree} (bared : Bared covered tree tree') (role : Role) :
    (tree.child? role = none ∧ tree'.child? role = none)
      ∨ ∃ child child', tree.child? role = some child ∧ tree'.child? role = some child'
        ∧ Bared covered child child' :=
  find_bared (fun _ _ below => by rw [below.role]) bared.children

/-! Types. -/

theorem textAt_bared {role : Role} {trees trees' : List Tree} {kinds : List Kind}
    (each : List.Forall₂ (Bared covered) trees trees')
    (leaves : ∀ tree ∈ trees, tree.role = role → IsLeafOf kinds tree) :
    Tree.textAt role trees' = Tree.textAt role trees := by
  unfold Tree.textAt
  rcases find_bared (p := fun tree => tree.role = role) (fun _ _ below => by rw [below.role]) each
    with ⟨none, none'⟩ | ⟨tree, tree', some, some', below⟩
  · rw [none, none']
  · have leaf := leaves tree (List.mem_of_find?_eq_some some) (by simpa using List.find?_some some)
    rw [some, some', Option.map_some, Option.map_some, below.text leaf]

theorem lengthText_bared {trees trees' : List Tree}
    (each : List.Forall₂ (Bared covered) trees trees') :
    lengthText trees' = lengthText trees := by
  unfold lengthText
  rcases find_bared (p := fun tree => tree.role = .length) (fun _ _ below => by rw [below.role]) each
    with ⟨none, none'⟩ | ⟨tree, tree', some, some', below⟩
  · rw [none, none']
  · rw [some, some', Option.filter_some, Option.filter_some, below.kind]
    split
    · rename_i literal
      have leaf := below.known.literal literal
      rw [Option.map_some, Option.map_some, below.text leaf]
    · rfl

theorem elementType_bared {trees trees' : List Tree}
    (each : List.Forall₂ (Bared covered) trees trees')
    (types : ∀ tree ∈ trees, ∀ tree', Bared covered tree tree' →
      Uncovers covered (typeOf tree) (typeOf tree')) :
    (elementType trees = none ∧ elementType trees' = none)
      ∨ ∃ expr expr', elementType trees = some expr ∧ elementType trees' = some expr'
        ∧ Uncovers covered expr expr' := by
  induction each with
  | nil => exact .inl ⟨rfl, rfl⟩
  | @cons tree tree' rest rest' first _ ih =>
      rw [elementType, elementType, first.role]
      split
      · exact .inr ⟨_, _, rfl, rfl, types tree List.mem_cons_self tree' first⟩
      · exact ih fun other member => types other (List.mem_cons_of_mem _ member)

theorem firstType_pointer {star target : Tree} (mark : IsMark "*" star)
    (named : target.isNamed = true) :
    firstType false [star, target] =
      some (if commentsOf target.lead ≠ [] then .unrecognised else typeOf target) := by
  obtain ⟨token, rfl, -⟩ := mark
  have free : target.commentsBefore.isEmpty = decide (commentsOf target.lead = []) := by
    rw [Tree.commentsBefore, List.isEmpty_map]
    exact Bool.eq_iff_iff.2 (by simp [commentsOf])
  have mark : (Tree.leaf .mark .plain token).isNamed = false := rfl
  by_cases none : commentsOf target.lead = []
  · simp [firstType, mark, free, none, named]
  · simp [firstType, mark, free, none]

/-- A comment may go between a `*` and the type that it points to only if `covered` holds. -/
theorem comments_target {starred : Bool} {star star' target target' : Tree} (mark : IsMark "*" star)
    (first : Bared covered star star')
    (thinned : Thinned covered starred (Tree.tokensOf [star, target])
      (Tree.tokensOf [star', target'])) :
    (commentsOf target.lead = [] → commentsOf target'.lead = [])
      ∧ (¬ covered → commentsOf target'.lead = [] → commentsOf target.lead = []) := by
  obtain ⟨token, rfl, text⟩ := mark
  obtain ⟨token', rfl, -⟩ := first.leaf
  simp only [Tree.tokensOf, Tree.tokens, List.append_nil, List.singleton_append] at thinned
  cases thinned with
  | cons _ _ others =>
      rw [text] at others
      unfold Tree.lead
      generalize target.tokens = tokens, target'.tokens = tokens' at others
      cases others with
      | nil => exact ⟨fun none => none, fun _ none => none⟩
      | cons alike kept _ => exact ⟨alike.lead.comments, kept (by decide)⟩

theorem pointer_bared {expr expr' : TypeExpr} {commented commented' : Prop} [Decidable commented]
    [Decidable commented'] (fewer : ¬ commented → ¬ commented')
    (more : ¬ covered → ¬ commented' → ¬ commented) (below : Uncovers covered expr expr') :
    Uncovers covered (.pointer (if commented then .unrecognised else expr))
      (.pointer (if commented' then .unrecognised else expr')) := by
  by_cases before : commented
  · rw [if_pos before]
    by_cases after : commented'
    · rw [if_pos after]
      exact .same _
    · rw [if_neg after]
      exact .target (by_contra fun other => more other after before) _
  · rw [if_neg before, if_neg (fewer before)]
    exact .pointer below

theorem typeOf_bared {tree tree' : Tree} (bared : Bared covered tree tree') :
    Uncovers covered (typeOf tree) (typeOf tree') := by
  have wellFormed := bared.known.wellFormed
  induction wellFormed generalizing tree' with
  | @leaf kind role token other =>
      obtain ⟨token', rfl, text⟩ := bared.leaf
      have same : typeOf (.leaf kind role token') = typeOf (.leaf kind role token) := by
        unfold typeOf
        rw [text]
      rw [same]
      exact .same _
  | @node kind role children formed below ih =>
      obtain ⟨children', rfl, each⟩ := bared.node
      have types : ∀ child ∈ children, ∀ child', Bared covered child child' →
          Uncovers covered (typeOf child) (typeOf child') :=
        fun child member child' below => ih child member below
      have known := bared.known
      unfold typeOf
      split
      · have label {role : Role} (either : role = .name ∨ role = .package) :
            Tree.textAt role children' = Tree.textAt role children :=
          textAt_bared each fun child member same =>
            known.spelled.label_leaf rfl member (same ▸ either)
        rw [label (.inl rfl), label (.inr rfl)]
        exact .same _
      · have formed : Formed .pointerType children := known.formed (by simp only [Tree.kind]; decide)
        cases formed with
        | @pointerType star target mark solid =>
            obtain ⟨-, -, starred, thinned⟩ := bared
            rcases each with _ | ⟨first, _ | ⟨second, _ | _⟩⟩
            rename_i star' target'
            have mark' : IsMark "*" star' := by
              obtain ⟨token, rfl, text⟩ := mark
              obtain ⟨token', rfl, same⟩ := first.leaf
              exact ⟨token', rfl, same.trans text⟩
            have named' : target'.isNamed = true := by rw [second.isNamed, solid.named]
            obtain ⟨fewer, more⟩ := comments_target mark first thinned
            rw [firstType_pointer mark solid.named, firstType_pointer mark' named']
            refine pointer_bared ?_ ?_ (types target (by simp) target' second)
            · simpa using fewer
            · simpa using more
      · rcases elementType_bared each types with ⟨none, none'⟩ | ⟨expr, expr', some, some', uncovers⟩
        · simp only [none, none']
          exact .same _
        · simp only [some, some']
          exact .array _ uncovers
      · rw [lengthText_bared each]
        rcases elementType_bared each types with ⟨none, none'⟩ | ⟨expr, expr', some, some', uncovers⟩
        · simp only [none, none']
          exact .same _
        · simp only [some, some']
          exact .array _ uncovers
      · exact .same _

/-! Methods and interfaces. -/

theorem forall_refl {α : Type} {relates : α → α → Prop} (xs : List α) (each : ∀ x, relates x x) :
    List.Forall₂ relates xs xs := List.forall₂_same.2 fun x _ => each x

theorem forall_left {α β : Type} {relates : α → β → Prop} {holds : α → Prop} {xs : List α}
    {ys : List β} (related : List.Forall₂ relates xs ys) (each : ∀ x ∈ xs, holds x) :
    List.Forall₂ (fun x y => holds x ∧ relates x y) xs ys := by
  induction related with
  | nil => exact .nil
  | cons first _ ih =>
      exact .cons ⟨each _ List.mem_cons_self, first⟩
        (ih fun other member => each other (List.mem_cons_of_mem _ member))

section Related

variable {α β : Type} {relates : Tree → Tree → Prop} {trees trees' : List Tree}
  (related : List.Forall₂ relates trees trees')

include related

theorem map_related {f : Tree → β} (same : ∀ tree tree', relates tree tree' → f tree' = f tree) :
    trees'.map f = trees.map f := by
  induction related with
  | nil => rfl
  | cons first _ ih => rw [List.map_cons, List.map_cons, same _ _ first, ih]

theorem filterMap_related {f : Tree → Option β}
    (same : ∀ tree tree', relates tree tree' → f tree' = f tree) :
    trees'.filterMap f = trees.filterMap f := by
  induction related with
  | nil => rfl
  | cons first _ ih => rw [List.filterMap_cons, List.filterMap_cons, same _ _ first, ih]

theorem flatMap_related {f : Tree → List β}
    (same : ∀ tree tree', relates tree tree' → f tree' = f tree) :
    trees'.flatMap f = trees.flatMap f := by
  rw [List.flatMap_def, List.flatMap_def, map_related related same]

end Related

theorem filter_bared {p : Tree → Bool}
    (respects : ∀ tree tree', Bared covered tree tree' → p tree' = p tree) {trees trees' : List Tree}
    (each : List.Forall₂ (Bared covered) trees trees') :
    List.Forall₂ (Bared covered) (trees.filter p) (trees'.filter p) :=
  List.rel_filter (fun tree tree' bared => by simp only [respects tree tree' bared]) each

theorem names_bared {tree tree' : Tree} (bared : Bared covered tree tree')
    (words : labelKinds? tree.kind = some nameKinds) :
    (tree'.childrenWith .name).map Tree.text = (tree.childrenWith .name).map Tree.text := by
  have leaves : ∀ child ∈ tree.childrenWith .name, IsLeafOf nameKinds child := by
    intro child member
    obtain ⟨among, role⟩ := List.mem_filter.1 member
    exact bared.known.spelled.label_leaf words among (.inl (by simpa using role))
  have each := filter_bared (p := fun child => child.role = .name)
    (fun _ _ below => by rw [below.role]) bared.children
  exact map_related (forall_left each leaves) fun _ _ both => both.2.text both.1

theorem declared_bared (names : List String) {expr expr' : TypeExpr}
    (uncovers : Uncovers covered expr expr') :
    List.Forall₂ (UncoversParam covered) (declared names expr) (declared names expr') := by
  unfold declared
  split
  · exact .cons ⟨rfl, uncovers⟩ .nil
  · exact List.forall₂_map_left_iff.2 (List.forall₂_map_right_iff.2
      (forall_refl names fun name => ⟨rfl, uncovers⟩))

theorem declaredParams_bared {tree tree' : Tree} (bared : Bared covered tree tree') :
    List.Forall₂ (UncoversParam covered) (declaredParams tree) (declaredParams tree') := by
  unfold declaredParams
  rw [bared.kind]
  split
  · rename_i kind
    rw [names_bared bared (by rw [kind]; rfl)]
    refine declared_bared _ ?_
    rcases child_bared bared .type with ⟨none, none'⟩ | ⟨child, child', some, some', below⟩
    · rw [none, none']
      exact .same _
    · rw [some, some']
      exact typeOf_bared below
  · rename_i kind
    rw [names_bared bared (by rw [kind]; rfl)]
    exact declared_bared _ (.same _)
  · exact .nil

theorem paramsOf_bared {tree tree' : Tree} (bared : Bared covered tree tree') :
    List.Forall₂ (UncoversParam covered) (paramsOf tree) (paramsOf tree') :=
  List.rel_flatMap bared.children fun _ _ below => declaredParams_bared below

theorem resultsOf_bared {tree tree' : Tree} (bared : Bared covered tree tree') :
    List.Forall₂ (UncoversParam covered) (resultsOf tree) (resultsOf tree') := by
  unfold resultsOf
  rw [bared.kind]
  split
  · exact paramsOf_bared bared
  · exact .cons ⟨rfl, typeOf_bared bared⟩ .nil

/-- The parameters or results that a child stands for. -/
theorem listed_bared {tree tree' : Tree} (bared : Bared covered tree tree') (role : Role)
    {f : Tree → List Param} (each : ∀ child child', Bared covered child child' →
      List.Forall₂ (UncoversParam covered) (f child) (f child')) :
    List.Forall₂ (UncoversParam covered) (((tree.child? role).map f).getD [])
      (((tree'.child? role).map f).getD []) := by
  rcases child_bared bared role with ⟨none, none'⟩ | ⟨child, child', some, some', below⟩
  · rw [none, none']
    exact .nil
  · rw [some, some']
    exact each child child' below

theorem methodOf_bared {tree tree' : Tree} (bared : Bared covered tree tree') :
    Option.Rel (UncoversMethod covered) (methodOf? tree) (methodOf? tree') := by
  unfold methodOf?
  rw [bared.kind]
  split
  · rename_i kind
    rcases child_bared bared .name with ⟨none, none'⟩ | ⟨child, child', some, some', below⟩
    · rw [none, none']
      exact .none
    · obtain ⟨among, role⟩ := child_mem some
      have leaf := bared.known.spelled.label_leaf (by rw [kind]; rfl) among (.inl role)
      rw [some, some']
      exact .some ⟨below.text leaf, listed_bared bared .parameters fun _ _ => paramsOf_bared,
        listed_bared bared .result fun _ _ => resultsOf_bared⟩
  · exact .none

theorem interfaceOf_bared {tree tree' : Tree} (bared : Bared covered tree tree')
    (spec : tree.kind = .typeSpec) :
    Option.Rel (UncoversInterface covered) (interfaceOf? tree) (interfaceOf? tree') := by
  unfold interfaceOf?
  rcases child_bared bared .type with ⟨none, none'⟩ | ⟨type, type', some, some', below⟩
  · rw [none, none']
    exact .none
  · rcases child_bared bared .name with ⟨none, none'⟩ | ⟨name, name', named, named', label⟩
    · rw [some, some', none, none']
      exact .none
    · obtain ⟨among, role⟩ := child_mem named
      have leaf := bared.known.spelled.label_leaf (by rw [spec]; rfl) among (.inl role)
      rw [some, some', named, named']
      dsimp only
      rw [below.kind]
      split
      · refine .some ⟨label.text leaf, ?_⟩
        exact List.rel_filterMap (fun _ _ inner => methodOf_bared inner) below.children
      · exact .none

theorem childrenOf_bared {tree tree' : Tree} (bared : Bared covered tree tree') (kind : Kind) :
    List.Forall₂ (fun child child' => child.kind = kind ∧ Bared covered child child')
      (tree.childrenOf kind) (tree'.childrenOf kind) := by
  have each := filter_bared (p := fun child => child.kind = kind) (fun _ _ below => by rw [below.kind])
    bared.children
  have kinds : ∀ child ∈ tree.childrenOf kind, child.kind = kind :=
    fun child member => by simpa using (List.mem_filter.1 member).2
  exact forall_left each kinds

theorem interfacesOf_bared {tree tree' : Tree} (bared : Bared covered tree tree') :
    List.Forall₂ (UncoversInterface covered) (interfacesOf tree) (interfacesOf tree') := by
  unfold interfacesOf
  rw [bared.kind]
  split
  · exact List.rel_filterMap (fun _ _ spec => interfaceOf_bared spec.2 spec.1)
      (childrenOf_bared bared .typeSpec)
  · exact .nil

/-! Imports and the package. -/

theorem importOf_bared {tree tree' : Tree} (bared : Bared covered tree tree')
    (spec : tree.kind = .importSpec) : importOf? tree' = importOf? tree := by
  have leaves : ∀ child ∈ tree.children, IsLeafOf [child.kind] child := by
    have formed : Formed tree.kind tree.children := bared.known.formed (by rw [spec]; decide)
    rw [spec] at formed
    generalize tree.children = children at formed
    cases formed with
    | @importSpec names path named pathed =>
        intro child member
        rcases List.mem_append.1 member with first | last
        · rcases named with rfl | ⟨name, rfl, kind, token, rfl, -⟩
          · simp at first
          · obtain rfl := List.mem_singleton.1 first
            exact ⟨_, _, _, rfl, by simp [Tree.kind]⟩
        · obtain rfl := List.mem_singleton.1 last
          obtain ⟨kind, token, rfl, -⟩ := pathed
          exact ⟨_, _, _, rfl, by simp [Tree.kind]⟩
  have text (role : Role) : (tree'.child? role).map Tree.text = (tree.child? role).map Tree.text := by
    rcases child_bared bared role with ⟨none, none'⟩ | ⟨child, child', some, some', below⟩
    · rw [none, none']
    · rw [some, some', Option.map_some, Option.map_some, below.text (leaves child (child_mem some).1)]
  have path (tree : Tree) : importOf? tree = ((tree.child? .path).map Tree.text).map fun text =>
      (unquote text, ((tree.child? .name).map Tree.text).getD "") := by
    rw [Option.map_map]
    rfl
  rw [path tree', path tree, text, text]

theorem importsOf_bared {tree tree' : Tree} (bared : Bared covered tree tree') :
    importsOf tree' = importsOf tree := by
  have alone {tree tree' : Tree} (bared : Bared covered tree tree') :
      (tree'.childrenOf .importSpec).filterMap importOf? =
        (tree.childrenOf .importSpec).filterMap importOf? :=
    filterMap_related (childrenOf_bared bared .importSpec) fun _ _ spec => importOf_bared spec.2 spec.1
  have grouped : (tree'.childrenOf .importSpecList).flatMap
        (fun list => (list.childrenOf .importSpec).filterMap importOf?) =
      (tree.childrenOf .importSpecList).flatMap
        (fun list => (list.childrenOf .importSpec).filterMap importOf?) :=
    flatMap_related (childrenOf_bared bared .importSpecList) fun _ _ list => alone list.2
  unfold importsOf importSpecs
  simp only [bared.kind, List.filterMap_append, alone bared, List.filterMap_flatMap, grouped]

theorem packageName_bared {tree tree' : Tree} (bared : Bared covered tree tree') :
    packageName? tree' = packageName? tree := by
  unfold packageName?
  rw [bared.kind]
  split
  · rename_i clause
    have leaves : ∀ child ∈ tree.childrenOf .packageIdentifier, IsLeafOf [.packageIdentifier] child := by
      intro child member
      obtain ⟨among, kind⟩ := List.mem_filter.1 member
      have formed : Formed tree.kind tree.children := bared.known.formed (by rw [clause]; decide)
      rw [clause] at formed
      generalize tree.children = children at formed among
      cases formed with
      | package opens named _ =>
          rcases List.mem_cons.1 among with rfl | among
          · obtain ⟨token, rfl, -⟩ := opens
            simp [Tree.kind] at kind
          · obtain rfl := List.mem_singleton.1 among
            obtain ⟨own, token, rfl, -⟩ := named
            exact ⟨_, _, _, rfl, List.mem_singleton.2 (of_decide_eq_true kind)⟩
    have names := map_related (forall_left (childrenOf_bared bared .packageIdentifier) leaves)
      fun _ _ both => both.2.2.text both.1
    rw [← List.head?_map, ← List.head?_map, names]
  · rfl

/-- Contents that differ in comments only. -/
theorem contents_bared {source source' : Source}
    (each : List.Forall₂ (Bared covered) source.trees source'.trees) :
    (contents source').package = (contents source).package
      ∧ (contents source').imports = (contents source).imports
      ∧ List.Forall₂ (UncoversInterface covered) (contents source).interfaces
        (contents source').interfaces := by
  have declarations : List.Forall₂ (Bared covered) source.declarations source'.declarations :=
    filter_bared (fun _ _ bared => bared.isNamed) each
  have interfaces : List.Forall₂ (UncoversInterface covered)
      (source.declarations.flatMap interfacesOf) (source'.declarations.flatMap interfacesOf) :=
    List.rel_flatMap declarations fun _ _ bared => interfacesOf_bared bared
  have imports := flatMap_related declarations fun _ _ bared => importsOf_bared bared
  have packages := filterMap_related declarations fun _ _ bared => packageName_bared bared
  have empty : (source'.declarations.flatMap interfacesOf).isEmpty =
      (source.declarations.flatMap interfacesOf).isEmpty := by
    refine Bool.eq_iff_iff.2 ?_
    rw [List.isEmpty_iff_length_eq_zero, List.isEmpty_iff_length_eq_zero, interfaces.length_eq]
  refine ⟨?_, ?_, interfaces⟩
  · simp only [contents, packages]
  · simp only [contents, empty, imports]

/-- A file with a space for one of its general comments, wherever the comment stands: it can be read,
and has the same package and imports and the same interfaces. Only where the comment follows a `*` can
its interfaces differ, and then only in targets of pointers that were not recognised. -/
theorem parseFile_comment (file source text : String) (inner : List Char)
    (before after : List Piece) (found : FileContents)
    (lexed : pieces? source = some (before ++ ⟨.comment, text⟩ :: after))
    (opens : text.toList = '/' :: '*' :: inner) (parsed : parseFile file source = .ok found) :
    ∃ found', parseFile file (textOf (before ++ ⟨.blank, " "⟩ :: after)) = .ok found'
      ∧ found'.package = found.package ∧ found'.imports = found.imports
      ∧ List.Forall₂ (UncoversInterface (starBefore false before = true)) found.interfaces
        found'.interfaces
      ∧ (starBefore false before = false → found' = found) := by
  unfold parseFile at parsed
  split at parsed
  · cases parsed
  · rename_i tree read
    dsimp only at parsed
    split at parsed
    · cases parsed
    · rename_i named
      obtain rfl := Except.ok.inj parsed
      obtain ⟨tree', read', same, thinned⟩ := parse_swap lexed opens read
      obtain ⟨package, imports, interfaces⟩ := contents_bared (bared_all (parse_known read) same thinned)
      have read'' : parseFile file (textOf (before ++ ⟨.blank, " "⟩ :: after)) =
          .ok (contents tree') := by
        simp only [parseFile, read', package, if_neg named]
      refine ⟨_, read'', package, imports, interfaces, fun other => ?_⟩
      have equal := forall_eq (fun _ _ => UncoversInterface.eq (by simp [other])) interfaces
      cases found : contents tree
      cases found' : contents tree'
      simp only [found, found'] at package imports equal
      rw [package, imports, equal]

def beforeComment (source : String) : List Piece :=
  ((pieces? source).getD []).takeWhile fun piece => piece.sort ≠ .comment

def afterComment (source : String) : List Piece :=
  (((pieces? source).getD []).dropWhile fun piece => piece.sort ≠ .comment).drop 1

/-- A source with a comment before a pointer type. -/
def commentedSource : String :=
  "package p\n\ntype A interface \x7b\n\tF(x /*c*/ *T)\n\x7d\n"

def commentedContents : FileContents where
  package := "p"
  imports := .empty
  interfaces := [⟨"A", [⟨"F", [⟨"x", .pointer (.named "T")⟩], []⟩]⟩]

theorem parseFile_comment_commentedSource :
    pieces? commentedSource =
        some (beforeComment commentedSource ++ ⟨.comment, "/*c*/"⟩ :: afterComment commentedSource)
      ∧ parseFile "a.go" commentedSource = .ok commentedContents
      ∧ starBefore false (beforeComment commentedSource) = false
      ∧ ∃ found, parseFile "a.go" (textOf (beforeComment commentedSource
          ++ ⟨.blank, " "⟩ :: afterComment commentedSource)) = .ok found
        ∧ (starBefore false (beforeComment commentedSource) = false → found = commentedContents) := by
  have lexed : pieces? commentedSource = some (beforeComment commentedSource
      ++ ⟨.comment, "/*c*/"⟩ :: afterComment commentedSource) := by decide +kernel
  have parsed : parseFile "a.go" commentedSource = .ok commentedContents := by decide +kernel
  obtain ⟨found, read, -, -, -, same⟩ := parseFile_comment "a.go" commentedSource "/*c*/"
    ['c', '*', '/'] _ _ commentedContents lexed rfl parsed
  exact ⟨lexed, parsed, by decide +kernel, found, read, same⟩

/-- A source with a comment inside a pointer type. -/
def coveredSource : String :=
  "package p\n\ntype A interface \x7b\n\tF(x * /*c*/ T)\n\x7d\n"

def coveredContents : FileContents where
  package := "p"
  imports := .empty
  interfaces := [⟨"A", [⟨"F", [⟨"x", .pointer .unrecognised⟩], []⟩]⟩]

/-- A comment after the `*` of a pointer type is taken for its target. -/
theorem comment_covers_target :
    pieces? coveredSource =
        some (beforeComment coveredSource ++ ⟨.comment, "/*c*/"⟩ :: afterComment coveredSource)
      ∧ parseFile "a.go" coveredSource = .ok coveredContents
      ∧ parseFile "a.go" (textOf (beforeComment coveredSource
          ++ ⟨.blank, " "⟩ :: afterComment coveredSource)) = .ok commentedContents
      ∧ coveredContents.interfaces ≠ commentedContents.interfaces := by
  refine ⟨by decide +kernel, by decide +kernel, by decide +kernel, by decide⟩

end InterfaceMocks.Comments
