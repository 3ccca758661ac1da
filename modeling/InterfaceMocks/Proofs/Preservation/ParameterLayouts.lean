import InterfaceMocks.Proofs.Preservation.Laid

/-!
What is laid out for the parameters of a source is the text of parameters that settle the same, given
that their types are recognised.
-/

namespace InterfaceMocks.Preservation

open InterfaceMocks.Syntax InterfaceMocks.Grammar InterfaceMocks.Written
open InterfaceMocks.Layout (parameterOf parameterTexts parameterTexts_eq parameterOf_eq isName
  parameterTrees isLoneType isParameterBranch)

def Ty.isSlim : Ty → Bool
  | .function (.cons ⟨false, []⟩ _ .nil) .none => true
  | _ => false

/-- A type is what a tree is laid out as, and settles as the tree does. -/
structure Ty.Lays (type : Ty) (tree : Tree) : Prop where
  text : ∀ role space indent,
    written (type.tree role space indent) = space ++ Layout.type indent tree
  same : ∀ role space indent,
    settled (type.tree role space indent) = settled (tree.withRole role)
  slim : type.isSlim = true → Preservation.isSlim tree = true

section Basics

variable {tree : Tree} {role : Role} {indent : Nat}

@[simp] theorem layout_withRole : Layout.type indent (tree.withRole role) = Layout.type indent tree := by
  cases tree with
  | leaf => rfl
  | node kind own children =>
      rw [Grammar.withRole_node]
      by_cases laid : kind ∈ Layout.typeKinds
      · simp only [Layout.typeKinds, List.mem_cons, List.not_mem_nil, or_false] at laid
        rcases laid with rfl | rfl | rfl | rfl | rfl | rfl | rfl | rfl <;>
          simp only [Layout.type] <;> rfl
      · rw [Layout.type_of_kept laid, Layout.type_of_kept laid]
        rfl

theorem Ty.tree_kind (type : Ty) (space : String) : (type.tree role space indent).kind ∈ typeKinds := by
  cases type <;> simp [Ty.tree, Written.name, structTree, Tree.kind, typeKinds]

@[simp] theorem Ty.tree_role (type : Ty) (space : String) :
    (type.tree role space indent).role = role := by
  cases type <;> simp [Ty.tree, Written.name, structTree, Tree.role]

theorem firm_of_kind (kind : tree.kind ∈ typeKinds) : Firm tree := by
  constructor
  · by_contra other
    simp only [Tree.isNamed, bne_iff_ne, ne_eq, Decidable.not_not] at other
    simp [other, typeKinds] at kind
  · rintro ⟨list, -⟩
    simp [list, typeKinds] at kind

theorem Ty.Lays.kind_eq {type : Ty} (lays : type.Lays tree) (role : Role) (space : String)
    (indent : Nat) : (type.tree role space indent).kind = tree.kind := by
  rw [← settled_kind, lays.same, settled_kind, kind_withRole]

theorem Ty.Lays.kind_mem {type : Ty} (lays : type.Lays tree) : tree.kind ∈ typeKinds := by
  rw [← lays.kind_eq .plain "" 0]
  exact type.tree_kind ""

theorem isSlim_withRole : Preservation.isSlim (tree.withRole role) = Preservation.isSlim tree := by
  cases tree <;> rfl

/-- A type settles as it does where it is laid out, whatever comes after it. -/
theorem Ty.Lays.settled {type : Ty} {tail tail' : List Tree} (lays : type.Lays tree) (space : String)
    (later : settledAll tail = settledAll tail') :
    settledAll (type.tree role space indent :: tail) = settledAll (tree.withRole role :: tail') := by
  rw [(firm_of_kind (type.tree_kind space)).settled, lays.same, later,
    (firm_of_kind (by simpa using lays.kind_mem)).settled]

end Basics

/-! Names. -/

section Names

variable {kind : Kind} {texts : List String} {trees tail : List Tree}

theorem firm_leaf {role : Role} {token : Token} (solid : kind ≠ .mark) (other : kind ≠ .parameterList) :
    Firm (.leaf kind role token) :=
  ⟨by simpa [Tree.isNamed, Tree.kind] using solid, by simp [Tree.kind, other]⟩

theorem Names.joined (names : Names kind texts trees) (solid : kind ≠ .mark)
    (other : kind ≠ .parameterList) :
    ∃ items, Joined items trees ∧ (∀ item ∈ items, Firm item)
      ∧ items.map settled = texts.map fun text => .leaf kind .name ⟨[], .word, text⟩ := by
  induction names with
  | one isName =>
      exact ⟨_, .one _, by simpa using firm_leaf solid other,
        by simp [settled, Layout.unspacedToken]⟩
  | more isName rest ih =>
      obtain ⟨items, joined, firm, same⟩ := ih
      cases items with
      | nil => cases rest <;> simp at same
      | cons next items =>
          refine ⟨_, .more _ _ joined, List.forall_mem_cons.2 ⟨firm_leaf solid other, firm⟩, ?_⟩
          rw [List.map_cons, same]
          simp [settled, Layout.unspacedToken]

theorem nameTrees_cons (space first second : String) (more : List String) :
    nameTrees kind space first (second :: more) =
      Written.name kind .name space first :: mark "" "," :: nameTrees kind " " second more := rfl

/-- The names where they are laid out. -/
theorem names_nameTrees {first : String} {more : List String} (space : String)
    (isName : ∀ text ∈ first :: more, IsName text) :
    Names kind (first :: more) (nameTrees kind space first more) := by
  induction more generalizing first space with
  | nil => exact .one (isName first (by simp))
  | cons second more ih =>
      exact .more (isName first (by simp)) (ih " " fun text member => isName text (by simp_all))

theorem Names.all (names : Names kind texts trees) : ∀ text ∈ texts, IsName text := by
  induction names with
  | one isName => simpa using isName
  | more isName rest ih => exact List.forall_mem_cons.2 ⟨isName, ih⟩

def settledNames (kind : Kind) (texts : List String) : List Tree :=
  (texts.map fun text => .leaf kind .name ⟨[], .word, text⟩).intersperse settledComma

theorem Names.settled (names : Names kind texts trees) (solid : kind ≠ .mark)
    (other : kind ≠ .parameterList) :
    settledAll (trees ++ tail) = settledNames kind texts ++ settledAll tail := by
  obtain ⟨items, joined, firm, same⟩ := names.joined solid other
  rw [settledAll_joined joined firm, same]
  rfl

theorem Names.listed (names : Names kind texts trees) (solid : kind ≠ .mark) :
    Listed (IsLeaf .name) trees := by
  refine .inr ?_
  induction names with
  | one => exact .one ⟨kind, _, rfl, solid⟩
  | more isName rest ih => exact .more ⟨kind, _, rfl, solid⟩ ⟨_, rfl, rfl⟩ ih

theorem Names.text_eq (names : Names kind texts trees) :
    (trees.filter isName).map Tree.text = texts := by
  induction names with
  | one => simp [isName, Tree.role, Tree.text, Tree.tokens, Token.textOf]
  | more _ rest ih =>
      simp [isName, Tree.role, comma, Tree.text, Tree.tokens, Token.textOf] at ih ⊢
      exact ih

theorem Names.some {first : String} (names : Names kind (first :: texts) trees) :
    (trees.filter isName).isEmpty = false := by
  have same := names.text_eq
  cases found : trees.filter isName with
  | nil => simp [found] at same
  | cons => rfl

theorem written_nameTrees (space first : String) (more : List String) :
    writtenOf (nameTrees kind space first more) = space ++ ", ".intercalate (first :: more) := by
  rw [nameTrees, writtenOf_cons, written_name, ← writtenOf_names (fun _ => kind) .name,
    String.append_assoc]

end Names

/-! Parameters. -/

structure Label.Lays (label : Label) (type : Ty) (tree : Tree) : Prop where
  text : ∀ space indent,
    written (label.tree space fun space => type.tree .type space indent) =
      space ++ parameterOf indent tree
  same : ∀ space indent,
    settled (label.tree space fun space => type.tree .type space indent) = settled tree
  bare : isBareName label type = true → isBare tree = true
  shared : label.variadic = false → label.names ≠ [] → isShared tree = true
  unnamed : label = ⟨false, []⟩ → isUnnamed tree = true
  slim : label = ⟨false, []⟩ → type.isSlim = true → (tree.child? .type).any isSlim = true

/-- Types of less than a size are recognised. -/
def Recognised (bound : Nat) : Prop :=
  ∀ tree, size tree < bound → TypeForm tree → tree.kind ∈ typeContext → Laid tree →
    ∃ type : Ty, type.Sound ∧ type.Lays tree

section Parameters

variable {bound : Nat} {tree target : Tree} {children : List Tree} {kind : Kind} {role own : Role}

theorem Laid.mem_context {context : List Kind} (laid : Laid (.node kind role children))
    (member : tree ∈ children) (known : constituents kind ⊆ context) (marks : .mark ∈ context) :
    tree.kind ∈ context := by
  cases named : tree.isNamed with
  | true => exact known (laid.mem_constituents member named)
  | false =>
      have mark : tree.kind = .mark := by simpa [Tree.isNamed] using named
      exact mark ▸ marks

/-- The type that a construct is built from. -/
theorem Recognised.inside (recognised : Recognised bound) (laid : Laid (.node kind role children))
    (within : size (.node kind role children) ≤ bound) (known : constituents kind ⊆ typeContext)
    (member : target.withRole own ∈ children) (form : TypeForm target) :
    ∃ type : Ty, type.Sound ∧ type.Lays target := by
  have less := @size_lt _ _ kind role member
  have context : target.kind ∈ typeContext := by
    simpa using laid.mem_context member known (by decide)
  exact recognised target (by simp at less; omega) form context (laid_withRole.1 (laid.below member))

theorem Recognised.below (recognised : Recognised bound) (laid : Laid (.node kind role children))
    (within : size (.node kind role children) ≤ bound) (known : constituents kind ⊆ typeContext)
    (member : target.withRole own ∈ children) (typed : Given [] Types.type [target]) :
    ∃ type : Ty, type.Sound ∧ type.Lays target :=
  recognised.inside laid within known member (given_type typed)

theorem typeAt_alone {indent : Nat} :
    Layout.typeAt indent .type [target.withRole .type] = some (Layout.type indent target) := by
  simp [Layout.typeAt]

theorem typeAt_dots {indent : Nat} {lead : List Gap} :
    Layout.typeAt indent .type
        [.leaf .mark .plain ⟨lead, .mark, "..."⟩, target.withRole .type] =
      some (Layout.type indent target) := by
  simp [Layout.typeAt]

theorem parameter_lays (recognised : Recognised bound) (form : ParameterForm tree)
    (laid : Laid tree) (within : size tree ≤ bound) :
    ∃ (label : Label) (type : Ty), label.Sound ∧ type.Sound ∧ label.Lays type tree := by
  cases form with
  | @named first texts names target listed free typed =>
      obtain ⟨type, sound, lays⟩ := recognised.below laid within (by decide)
        (List.mem_append_right _ List.mem_cons_self) typed
      refine ⟨⟨false, first :: texts⟩, type, ⟨listed.all, by simpa using free, by simp⟩, sound, ?_⟩
      refine ⟨fun space indent => ?_, fun space indent => ?_, by simp [isBareName], ?_, by simp,
        by simp⟩
      · rw [parameterOf_eq (listed.listed (by decide)) (by simp) typeAt_alone, listed.text_eq,
          listed.some]
        simp [Label.tree, written_nameTrees, lays.text, String.append_assoc]
      · simp only [Label.tree, settled]
        rw [(names_nameTrees space listed.all).settled (by decide) (by decide),
          listed.settled (by decide) (by decide), lays.settled " " rfl]
      · intro _ _
        cases listed <;> simp [isShared, Tree.child?, Tree.children, Tree.kind, Tree.role]
  | @variadic lead target typed =>
      obtain ⟨type, sound, lays⟩ := recognised.below laid within (by decide)
        (List.mem_cons_of_mem _ List.mem_cons_self) typed
      refine ⟨⟨true, []⟩, type, ⟨by simp, by simp, by simp⟩, sound, ?_⟩
      refine ⟨fun space indent => ?_, fun space indent => ?_, by simp [isBareName], by simp, by simp,
        by simp⟩
      · rw [← List.nil_append [_, _], parameterOf_eq (.inl rfl) (by simp) typeAt_dots]
        simp [Label.tree, lays.text, String.append_assoc]
      · simp only [Label.tree, settled]
        rw [settledAll_mark (by decide), settledAll_punct (by decide), lays.settled "" rfl]
  | @namedVariadic text names lead target listed free typed =>
      obtain ⟨type, sound, lays⟩ := recognised.below laid within (by decide)
        (List.mem_append_right _ (List.mem_cons_of_mem _ List.mem_cons_self)) typed
      refine ⟨⟨true, [text]⟩, type, ⟨listed.all, by simpa using free, by simp⟩, sound, ?_⟩
      refine ⟨fun space indent => ?_, fun space indent => ?_, by simp [isBareName], by simp, by simp,
        by simp⟩
      · rw [parameterOf_eq (listed.listed (by decide)) (by simp) typeAt_dots, listed.text_eq,
          listed.some]
        apply String.toList_injective
        simp [Label.tree, written_nameTrees, lays.text]
      · simp only [Label.tree, settled]
        rw [(names_nameTrees space listed.all).settled (by decide) (by decide),
          listed.settled (by decide) (by decide), settledAll_mark (by decide),
          settledAll_punct (by decide), lays.settled "" rfl]
  | @lone target typed =>
      obtain ⟨type, sound, lays⟩ := recognised.below laid within (by decide) List.mem_cons_self typed
      refine ⟨⟨false, []⟩, type, ⟨by simp, by simp, by simp⟩, sound, ?_⟩
      refine ⟨fun space indent => ?_, fun space indent => ?_, fun bare => ?_, by simp, fun _ => ?_,
        fun _ slim => ?_⟩
      · rw [← List.nil_append [_], parameterOf_eq (.inl rfl) (by simp) typeAt_alone]
        simp [Label.tree, lays.text]
      · simp only [Label.tree, settled]
        rw [lays.settled space rfl]
      · have kind : target.kind = .typeIdentifier := by
          rw [← lays.kind_eq .plain "" 0]
          cases type <;> simp_all [isBareName, Ty.tree, Written.name, Tree.kind]
        simp [isBare, isUnnamed, Tree.child?, kind]
      · simp [isUnnamed, Tree.child?]
      · simp [Tree.child?, isSlim_withRole, lays.slim slim]

end Parameters

inductive Parameters.Lays : Parameters → List Tree → Prop where
  | nil : Parameters.Lays .nil []
  | cons {label type rest item items} (first : Label.Lays label type item)
      (others : Parameters.Lays rest items) : Parameters.Lays (.cons label type rest) (item :: items)

section ParameterLists

variable {parameters : Parameters} {items : List Tree} {bound : Nat}

theorem Parameters.sharesType_cons {label : Label} {type : Ty} {rest : Parameters}
    (shares : (Parameters.cons label type rest).sharesType = true) :
    (label.variadic = false ∧ label.names ≠ []) ∨ (label = ⟨false, []⟩ ∧ type.isSlim = true) := by
  unfold Parameters.sharesType at shares
  split at shares <;> simp_all [Ty.isSlim]

/-- No word alone comes before what it would be read with. -/
theorem Parameters.Lays.apart {label : Label} {type : Ty} {item : Tree} (first : label.Lays type item)
    (others : parameters.Lays items) (orderly : isOrderly (item :: items) = true)
    (steady : isSteady (item :: items) = true) :
    isBareName label type = true → parameters.sharesType = false := by
  intro bare
  -- what the parameters share is seen in the trees, where the first is a word as well
  have isBare := first.bare bare
  by_contra shares
  simp only [Bool.not_eq_false] at shares
  cases others with
  | nil => simp [Parameters.sharesType] at shares
  | @cons label' type' rest item' items second others =>
      simp only [isOrderly, isSteady, isBare, Bool.true_and, Bool.and_eq_true, Bool.not_eq_true']
        at orderly steady
      rcases Parameters.sharesType_cons shares with ⟨variadic, named⟩ | ⟨alone, slim⟩
      · simp [second.shared variadic named] at orderly
      · simp [second.unnamed alone, second.slim alone slim] at steady

theorem parameters_lay (recognised : Recognised bound) (forms : ∀ item ∈ items, ParameterForm item)
    (laid : ∀ item ∈ items, Laid item) (within : ∀ item ∈ items, size item ≤ bound)
    (orderly : isOrderly items = true) (steady : isSteady items = true) :
    ∃ parameters : Parameters, parameters.Sound ∧ parameters.Lays items := by
  induction items with
  | nil => exact ⟨.nil, by simp [Parameters.Sound], .nil⟩
  | cons item items ih =>
      -- both are about neighbours, and hold of what is left
      have later : isOrderly items = true ∧ isSteady items = true := by
        cases items with
        | nil => exact ⟨rfl, rfl⟩
        | cons => simp_all [isOrderly, isSteady]
      simp only [List.forall_mem_cons] at forms laid within
      obtain ⟨rest, soundRest, others⟩ := ih forms.2 laid.2 within.2 later.1 later.2
      obtain ⟨label, type, sound, soundType, first⟩ :=
        parameter_lays recognised forms.1 laid.1 within.1
      exact ⟨.cons label type rest,
        by simpa [Parameters.Sound] using
          ⟨sound, soundType, Parameters.Lays.apart first others orderly steady, soundRest⟩,
        .cons first others⟩

theorem Label.firm (label : Label) (space : String) (type : String → Tree) :
    Firm (label.tree space type) := by
  obtain ⟨variadic, names⟩ := label
  cases variadic <;> cases names <;> exact ⟨rfl, by simp [Label.tree]⟩

theorem Parameters.Lays.written_more (lays : parameters.Lays items) (indent : Nat) :
    writtenOf (parameters.more indent) =
      String.join ((items.map (parameterOf indent)).map fun text => ", " ++ text) := by
  induction lays with
  | nil => simp [Parameters.more]
  | cons first others ih =>
      apply String.toList_injective
      simp [Parameters.more, first.text, ih]

theorem Parameters.Lays.written (lays : parameters.Lays items) (indent : Nat) :
    writtenOf (parameters.trees indent) = ", ".intercalate (items.map (parameterOf indent)) := by
  cases lays with
  | nil => simp [Parameters.trees]
  | cons first others =>
      simp [Parameters.trees, first.text, others.written_more, intercalate_cons]

theorem Parameters.Lays.joined_more (lays : parameters.Lays items) (indent : Nat) (first : Tree) :
    ∃ items', Joined (first :: items') (first :: parameters.more indent)
      ∧ items'.map settled = items.map settled ∧ ∀ item ∈ items', Firm item := by
  induction lays generalizing first with
  | nil => exact ⟨[], by simpa [Parameters.more] using .one first, rfl, by simp⟩
  | @cons label type rest item items lays others ih =>
      obtain ⟨items', joined, same, firm⟩ :=
        ih (label.tree " " fun space => type.tree .type space indent)
      refine ⟨label.tree " " (fun space => type.tree .type space indent) :: items', ?_, ?_,
        List.forall_mem_cons.2 ⟨label.firm _ _, firm⟩⟩
      · rw [Parameters.more]
        exact .more first _ joined
      · rw [List.map_cons, List.map_cons, same, lays.same]

/-- Parameters settle as they do where they are laid out. -/
theorem Parameters.Lays.settled (lays : parameters.Lays items) (indent : Nat) (tail : List Tree) :
    settledAll (parameters.trees indent ++ tail) =
      (items.map Preservation.settled).intersperse settledComma ++ settledAll tail := by
  cases lays with
  | nil => simp [Parameters.trees]
  | @cons label type rest item items lays others =>
      obtain ⟨items', joined, same, firm⟩ :=
        others.joined_more indent (label.tree "" fun space => type.tree .type space indent)
      rw [Parameters.trees, settledAll_joined joined (List.forall_mem_cons.2 ⟨label.firm _ _, firm⟩),
        List.map_cons, same, lays.same, List.map_cons]

structure Parameters.Lists (parameters : Parameters) (list : Tree) : Prop where
  node : ∃ children, list = .node .parameterList .plain children
  items : parameters.Lays (parameterTrees list.children)
  texts : ∀ indent, parameterTexts indent list.children =
    (parameterTrees list.children).map (parameterOf indent)
  same : ∀ role space indent, settled (listTree role space (parameters.trees indent)) =
    settled (list.withRole role)
  found : parameterTrees (settled list).children = (parameterTrees list.children).map settled

theorem Parameters.Lists.text {list : Tree} (lists : parameters.Lists list) (indent : Nat) :
    writtenOf (parameters.trees indent) =
      ", ".intercalate (parameterTexts indent list.children) := by
  rw [lists.texts, lists.items.written]

theorem filter_intersperse {p : Tree → Bool} {separator : Tree} {trees : List Tree}
    (holds : ∀ tree ∈ trees, p tree = true) (other : p separator = false) :
    (trees.intersperse separator).filter p = trees := by
  induction trees with
  | nil => rfl
  | cons first rest ih =>
      simp only [List.forall_mem_cons] at holds
      cases rest with
      | nil => simp [holds.1]
      | cons second rest => simp [holds.1, other, ih holds.2]

theorem ParameterForm.isParameter {tree : Tree} (form : ParameterForm tree) :
    Layout.isParameter tree = true ∧ isParameterBranch tree = true := by
  cases form <;> exact ⟨rfl, rfl⟩

theorem list_lays {list : Tree} (recognised : Recognised bound)
    (listed : Given [] Types.parameters [list]) (laid : Laid list) (within : size list ≤ bound) :
    ∃ parameters : Parameters, parameters.Sound ∧ parameters.Lists list := by
  obtain ⟨a, b, items, trees, trailing, rfl, joined, ending, forms, orderly⟩ := given_parameters listed
  have inside : ∀ item ∈ items, item ∈ enclosed a b trees trailing := fun item member => by
    simp [joined.subset item member]
  have found : (enclosed a b trees trailing).filter Layout.isParameter = items :=
    joined.filter_enclosed ending (fun item member => (forms item member).isParameter.1) fun _ => rfl
  have texts : (enclosed a b trees trailing).filter isParameterBranch = items :=
    joined.filter_enclosed ending (fun item member => (forms item member).isParameter.2) fun _ => rfl
  have steady : isSteady items = true := by
    have spared := laid.isSpared
    simp only [isSpared, parameterTrees, found] at spared
    exact spared
  obtain ⟨parameters, sound, lays⟩ := parameters_lay recognised forms
    (fun item member => laid.below (inside item member))
    (fun item member => (size_lt (inside item member)).le.trans within) orderly steady
  have isList : ∀ item ∈ items, Firm item := fun item member => by
    cases forms item member <;> exact ⟨rfl, by simp [Tree.kind]⟩
  have ended := @settledAll_enclosed _ _ a b _ joined ending isList
  refine ⟨parameters, sound, ⟨_, rfl⟩, ?_, fun indent => ?_, fun role space indent => ?_, ?_⟩
  · rw [children_node, parameterTrees, found]
    exact lays
  · rw [parameterTexts_eq, parameterTrees, children_node, texts, found]
  · simp only [Grammar.withRole_node, listTree, settled]
    rw [settledAll_mark (by decide), ended, lays.settled, settledAll_mark (by decide)]
    rfl
  · simp only [settled, children_node]
    rw [ended, parameterTrees, parameterTrees, found]
    have each : ∀ tree ∈ items.map settled, Layout.isParameter tree = true := by
      simpa [Layout.isParameter] using fun item member => by
        simpa [Layout.isParameter] using (forms item member).isParameter.1
    have none (token : Token) : Layout.isParameter (.leaf .mark .plain token) = false := rfl
    have comma : Layout.isParameter settledComma = false := rfl
    simp [filter_intersperse each comma, none]

end ParameterLists

end InterfaceMocks.Preservation
