import InterfaceMocks.Proofs.Preservation.Statements
import InterfaceMocks.Proofs.Preservation.TypeLayouts

/-!
What is laid out for an expression of a source is the text of an expression that settles the same.
-/

namespace InterfaceMocks.Preservation

open InterfaceMocks.Syntax InterfaceMocks.Grammar InterfaceMocks.Written
open InterfaceMocks.Layout (expressionItems expressionItems_plain)

structure Expr.Lays (expr : Expr) (tree : Tree) : Prop where
  text : ∀ role space, written (expr.tree role space) = space ++ Layout.expression tree
  same : ∀ role space, settled (expr.tree role space) = settled (tree.withRole role)
  lead : ∀ word ∈ expr.lead?, ∃ gaps rest, tree.tokens = ⟨gaps, .word, word⟩ :: rest

section Basics

variable {tree : Tree} {role : Role} {expr : Expr}

@[simp] theorem expression_withRole : Layout.expression (tree.withRole role) = Layout.expression tree := by
  cases tree with
  | leaf => rfl
  | node kind own children =>
      rw [Grammar.withRole_node]
      by_cases laid : kind = .selectorExpression ∨ kind = .callExpression
          ∨ kind = .parenthesizedExpression
      · rcases laid with rfl | rfl | rfl <;> simp only [Layout.expression] <;> rfl
      · simp only [not_or] at laid
        rw [Layout.expression_of_kept laid, Layout.expression_of_kept laid]
        rfl

theorem operandKind_mem (text : String) :
    operandKind text ∈ [.identifier, .nilLiteral, .trueLiteral, .falseLiteral, Kind.iota] := by
  unfold operandKind
  repeat' split
  all_goals decide

theorem Expr.tree_kind (expr : Expr) (space : String) :
    (expr.tree role space).kind ∈ expressionKinds := by
  cases expr with
  | name text =>
      exact (by decide : [.identifier, .nilLiteral, .trueLiteral, .falseLiteral, Kind.iota] ⊆
        expressionKinds) (operandKind_mem text)
  | _ => simp [Expr.tree, Tree.kind, expressionKinds]

theorem firm_expression (kind : tree.kind ∈ expressionKinds) : Firm tree := by
  constructor
  · by_contra other
    simp only [Tree.isNamed, bne_iff_ne, ne_eq, Decidable.not_not] at other
    simp [other, expressionKinds] at kind
  · rintro ⟨list, -⟩
    simp [list, expressionKinds] at kind

theorem Expr.Lays.kind_eq (lays : expr.Lays tree) (role : Role) (space : String) :
    (expr.tree role space).kind = tree.kind := by
  rw [← settled_kind, lays.same, settled_kind, kind_withRole]

theorem Expr.Lays.kind_mem (lays : expr.Lays tree) : tree.kind ∈ expressionKinds := by
  rw [← lays.kind_eq .plain ""]
  exact expr.tree_kind ""

theorem Expr.Lays.settled {tail tail' : List Tree} (lays : expr.Lays tree) (space : String)
    (later : settledAll tail = settledAll tail') :
    settledAll (expr.tree role space :: tail) = settledAll (tree.withRole role :: tail') := by
  rw [(firm_expression (expr.tree_kind space)).settled, lays.same, later,
    (firm_expression (by simpa using lays.kind_mem)).settled]

/-- An expression of a source that is laid out anew stands in no role of its own. -/
theorem ExprForm.withRole_plain (form : ExprForm tree) (known : tree.kind ∈ expressionContext)
    (laid : Laid tree) : tree.withRole .plain = tree := by
  cases form with
  | other foreign => exact absurd known foreign
  | unbuilt foreign => simp [laid.isBuilt] at foreign
  | _ => rfl

theorem name_lays_expression {lead : List Gap} {text : String} :
    (Expr.name text).Lays (.leaf (operandKind text) .plain ⟨lead, .word, text⟩) where
  text role space := by simp [Expr.tree, Layout.expression]
  same role space := by simp [Expr.tree, Written.name, settled, Layout.unspacedToken]
  lead := by simp [Expr.lead?, Tree.tokens]

/-- What allocates is recognised by its name. -/
theorem Expr.Lays.isAllocator (lays : expr.Lays tree) (allocates : expr.isAllocator = true) :
    Preservation.isAllocator tree = true := by
  cases expr with
  | name text =>
      have same := lays.same .plain ""
      have plain : operandKind text = .identifier := by
        simp only [Expr.isAllocator, allocators, List.contains_eq_mem, List.mem_cons,
          List.not_mem_nil, or_false, decide_eq_true_eq] at allocates
        rcases allocates with rfl | rfl <;> decide
      cases tree with
      | leaf kind role token =>
          simp only [Expr.tree, Written.name, Preservation.settled, Grammar.withRole_leaf,
            Syntax.Tree.leaf.injEq, true_and] at same
          have text : text = token.text := congrArg Token.text same.2
          simpa [Preservation.isAllocator, Expr.isAllocator, ← same.1, plain, ← text] using allocates
      | node => simp [Expr.tree, Written.name, Preservation.settled] at same
  | _ => simp [Expr.isAllocator] at allocates

theorem Expr.Lays.isInt (lays : expr.Lays tree) (other : tree.kind ≠ .intLiteral) :
    expr.isInt = false := by
  cases expr with
  | int text => exact absurd (lays.kind_eq .plain "").symm other
  | _ => rfl

end Basics

/-! Arguments. -/

inductive Arguments.Lays : Arguments → List Tree → Prop where
  | nil : Arguments.Lays .nil []
  | cons {first rest item items} (plain : item.withRole .plain = item) (lays : Expr.Lays first item)
      (others : Arguments.Lays rest items) : Arguments.Lays (.cons first rest) (item :: items)

section Arguments

variable {arguments : Arguments} {items trees trailing : List Tree}

theorem Arguments.Lays.written_more (lays : arguments.Lays items) :
    writtenOf arguments.more =
      String.join ((items.map Layout.expression).map fun text => ", " ++ text) := by
  induction lays with
  | nil => simp [Arguments.more]
  | cons plain first others ih =>
      apply String.toList_injective
      simp [Arguments.more, first.text, ih]

theorem Arguments.Lays.written (lays : arguments.Lays items) (some : items ≠ []) (space : String) :
    writtenOf (arguments.trees space) = space ++ ", ".intercalate (items.map Layout.expression) := by
  cases lays with
  | nil => simp at some
  | cons plain first others =>
      simp [Arguments.trees, first.text, others.written_more, intercalate_cons, String.append_assoc]

theorem Arguments.Lays.firm (lays : arguments.Lays items) : ∀ item ∈ items, Firm item := by
  induction lays with
  | nil => simp
  | cons plain first others ih => exact List.forall_mem_cons.2 ⟨firm_expression first.kind_mem, ih⟩

theorem Arguments.Lays.joined_more (lays : arguments.Lays items) (first : Tree) :
    ∃ items', Joined (first :: items') (first :: arguments.more)
      ∧ items'.map settled = items.map settled ∧ ∀ item ∈ items', Firm item := by
  induction lays generalizing first with
  | nil => exact ⟨[], by simpa [Arguments.more] using .one first, rfl, by simp⟩
  | @cons expr rest item items plain lays others ih =>
      obtain ⟨items', joined, same, firm⟩ := ih (expr.tree .plain " ")
      refine ⟨expr.tree .plain " " :: items', ?_, ?_,
        List.forall_mem_cons.2 ⟨firm_expression (expr.tree_kind _), firm⟩⟩
      · rw [Arguments.more]
        exact .more first _ joined
      · rw [List.map_cons, List.map_cons, same, lays.same, plain]

/-- Arguments settle as they do where they are laid out. -/
theorem Arguments.Lays.settled (lays : arguments.Lays items) (space : String) (tail : List Tree) :
    settledAll (arguments.trees space ++ tail) =
      (items.map Preservation.settled).intersperse settledComma ++ settledAll tail := by
  cases lays with
  | nil => simp [Arguments.trees]
  | @cons expr rest item items plain lays others =>
      obtain ⟨items', joined, same, firm⟩ := others.joined_more (expr.tree .plain space)
      rw [Arguments.trees, settledAll_joined joined
        (List.forall_mem_cons.2 ⟨firm_expression (expr.tree_kind _), firm⟩), List.map_cons, same,
        lays.same, plain, List.map_cons]

variable {a b : List Gap}

theorem items_enclosed (joined : Joined items trees) (ending : IsTrailing trailing)
    (firm : ∀ item ∈ items, Firm item)
    (plain : ∀ tree ∈ enclosed a b trees trailing, Layout.Plain tree) :
    expressionItems false (enclosed a b trees trailing) = items.map Layout.expression := by
  rw [expressionItems_plain plain,
    joined.filter_enclosed ending (fun item member => (firm item member).named) fun _ => rfl]

end Arguments

/-! Expressions. -/

def Expressed (bound : Nat) : Prop :=
  ∀ tree, size tree < bound → ExprForm tree → tree.kind ∈ expressionContext → Laid tree →
    ∃ expr : Expr, expr.Sound ∧ expr.Lays tree

section Expressions

variable {bound : Nat} {tree : Tree} {items children trees trailing : List Tree} {kind : Kind}
  {role own : Role} {a b : List Gap}

theorem Expressed.inside (expressed : Expressed bound) (laid : Laid (.node kind role children))
    (within : size (.node kind role children) ≤ bound)
    (known : constituents kind ⊆ expressionContext) (member : tree.withRole own ∈ children)
    (form : ExprForm tree) :
    tree.withRole .plain = tree ∧ ∃ expr : Expr, expr.Sound ∧ expr.Lays tree := by
  have less := @size_lt _ _ kind role member
  have context : tree.kind ∈ expressionContext := by
    simpa using laid.mem_context member known (by decide)
  have laidTree := laid_withRole.1 (laid.below member)
  exact ⟨form.withRole_plain context laidTree,
    expressed tree (by simp at less; omega) form context laidTree⟩

theorem own_mem (member : tree ∈ children) : tree.withRole tree.role ∈ children := by
  cases tree <;> exact member

theorem arguments_lay (expressed : Expressed bound) (laid : Laid (.node kind role children))
    (within : size (.node kind role children) ≤ bound)
    (known : constituents kind ⊆ expressionContext) (inside : ∀ item ∈ items, item ∈ children)
    (forms : ∀ item ∈ items, ExprForm item) :
    ∃ arguments : Arguments, arguments.Sound ∧ arguments.Lays items := by
  induction items with
  | nil => exact ⟨.nil, trivial, .nil⟩
  | cons item items ih =>
      simp only [List.forall_mem_cons] at inside forms
      obtain ⟨rest, soundRest, others⟩ := ih inside.2 forms.2
      obtain ⟨plain, expr, sound, lays⟩ := expressed.inside laid within known (own_mem inside.1)
        forms.1
      exact ⟨.cons expr rest, ⟨sound, soundRest⟩, .cons plain lays others⟩

theorem settled_call {callee : Tree} (firm : Firm callee) (list : List Tree) :
    settled (.node .callExpression role [callee, .node .argumentList .arguments list]) =
      .node .callExpression role [settled callee, .node .argumentList .arguments (settledAll list)] := by
  have firmList : Firm (.node .argumentList .arguments list) := ⟨rfl, by simp [Tree.kind]⟩
  rw [settled, firm.settled, firmList.settled, settled, settledAll]

theorem expression_called {callee : Tree} (called : callee.role = .function) (list : List Tree) :
    Layout.expression (.node .callExpression .plain [callee, .node .argumentList .arguments list]) =
      Layout.expression callee ++ ("(" ++ (", ".intercalate (expressionItems false list) ++ ")")) := by
  have call := @Layout.expression_call .plain [callee] [] (.node .argumentList .arguments list)
    (by simpa using called) (by simp) rfl
  simpa using call

theorem call_lays {function : Expr} {callee : Tree} {arguments : Arguments} (lays : function.Lays callee)
    (others : arguments.Lays items) (joined : Joined items trees) (ending : IsTrailing trailing)
    (plain : ∀ tree ∈ enclosed a b trees trailing, Layout.Plain tree) :
    (Expr.call function arguments).Lays (.node .callExpression .plain
      [callee.withRole .function, .node .argumentList .arguments (enclosed a b trees trailing)]) where
  text role space := by
    rw [expression_called (by simp), items_enclosed joined ending others.firm plain,
      expression_withRole]
    cases others with
    | nil => simp [Expr.tree, lays.text, Arguments.trees, String.append_assoc]
    | cons simple first others =>
        simp [Expr.tree, lays.text, (Arguments.Lays.cons simple first others).written,
          String.append_assoc]
  same role space := by
    rw [Grammar.withRole_node, Expr.tree, settled_call (firm_expression (function.tree_kind space)),
      settled_call (firm_expression (by simpa using lays.kind_mem)), lays.same,
      settledAll_enclosed joined ending others.firm, settledAll_mark (by decide), others.settled,
      settledAll_mark (by decide), settledAll]
  lead word first := by
    obtain ⟨gaps, rest, same⟩ := lays.lead word first
    exact ⟨gaps, _, by simp [Tree.tokens, tokens_withRole, same]; rfl⟩

theorem allocation_lays {lead c : List Gap} {word type : String} {arguments : Arguments}
    (others : arguments.Lays items)
    (joined : Joined (.leaf .typeIdentifier .plain ⟨c, .word, type⟩ :: items) trees)
    (ending : IsTrailing trailing)
    (plain : ∀ tree ∈ enclosed a b trees trailing, Layout.Plain tree) :
    (Expr.allocation word type arguments).Lays (.node .callExpression .plain
      [.leaf .identifier .function ⟨lead, .word, word⟩,
       .node .argumentList .arguments (enclosed a b trees trailing)]) := by
  have firmName (token : Token) : Firm (.leaf .typeIdentifier .plain token) :=
    firm_leaf (by decide) (by decide)
  have firmWord (token : Token) : Firm (.leaf .identifier .function token) :=
    firm_leaf (by decide) (by decide)
  have firm := List.forall_mem_cons.2 ⟨firmName ⟨c, .word, type⟩, others.firm⟩
  refine ⟨fun role space => ?_, fun role space => ?_, by simp [Expr.lead?, Tree.tokens]⟩
  · rw [expression_called rfl, items_enclosed joined ending firm plain]
    simp [Expr.tree, others.written_more, intercalate_cons, String.append_assoc, Layout.expression]
  · -- the type is laid out before the arguments, and all of them settle as one list
    obtain ⟨items', joined', same, firm'⟩ :=
      others.joined_more (Written.name .typeIdentifier .plain "" type)
    have listed := @settledAll_enclosed _ _ (token "" .mark "(").lead (token "" .mark ")").lead _
      joined' (.inl rfl) (List.forall_mem_cons.2 ⟨firmName _, firm'⟩)
    rw [Grammar.withRole_node, Expr.tree, Written.name, settled_call (firmWord _),
      settled_call (firmWord _), settledAll_enclosed joined ending firm]
    refine congrArg _ (congrArg₂ _ rfl (congrArg₂ _ (congrArg _ (listed.trans ?_)) rfl))
    rw [List.map_cons, List.map_cons, same]
    rfl

theorem paren_lays {expr : Expr} (lays : expr.Lays tree) (same : tree.withRole .plain = tree)
    (plain : ∀ other ∈ enclosed a b [tree] [], Layout.Plain other) :
    (Expr.paren expr).Lays (.node .parenthesizedExpression .plain (enclosed a b [tree] [])) where
  text role space := by
    have firm : ∀ item ∈ [tree], Firm item := by simpa using firm_expression lays.kind_mem
    simp [Layout.expression, items_enclosed (.one tree) (.inl rfl) firm plain, Expr.tree, lays.text,
      String.append_assoc]
  same role space := by
    have first := @Expr.Lays.settled tree .plain expr [mark "" ")"]
      [.leaf .mark .plain ⟨b, .mark, ")"⟩] lays ""
      ((settledAll_mark (by decide)).trans (settledAll_punct (by decide)).symm)
    simp only [Grammar.withRole_node, Expr.tree, settled]
    rw [settledAll_mark (by decide), settledAll_punct (by decide), first, same]
    rfl
  lead := by simp [Expr.lead?]

theorem selector_lays {expr : Expr} {field : String} (lays : expr.Lays tree) :
    (Expr.selector expr field).Lays (.node .selectorExpression .plain
      [tree.withRole .operand, .leaf .mark .plain ⟨a, .mark, "."⟩,
       .leaf .fieldIdentifier .field ⟨b, .word, field⟩]) where
  text role space := by
    have selected := @Layout.expression_selector .plain [tree.withRole .operand]
      (.leaf .mark .plain ⟨a, .mark, "."⟩) (.leaf .fieldIdentifier .field ⟨b, .word, field⟩) (by simp)
      ⟨_, rfl, rfl⟩ ⟨_, _, rfl, by decide⟩
    simp only [List.singleton_append, expression_withRole] at selected
    simp [selected, Expr.tree, lays.text, String.append_assoc]
  same role space := by
    have firm (token : Token) : Firm (.leaf .fieldIdentifier .field token) :=
      firm_leaf (by decide) (by decide)
    have later : settledAll [mark "" ".", Written.name .fieldIdentifier .field "" field] =
        settledAll [.leaf .mark .plain ⟨a, .mark, "."⟩,
          .leaf .fieldIdentifier .field ⟨b, .word, field⟩] := by
      rw [settledAll_mark (by decide), settledAll_punct (by decide), Written.name, (firm _).settled,
        (firm _).settled]
      rfl
    simp only [Grammar.withRole_node, Expr.tree, settled]
    rw [lays.settled space later]
  lead word first := by
    obtain ⟨gaps, rest, same⟩ := lays.lead word first
    exact ⟨gaps, _, by simp [Tree.tokens, tokens_withRole, same]; rfl⟩

/-- The one type that may be an argument is a name. -/
theorem name_of_laid (form : TypeForm tree) (known : tree.kind ∈ constituents .argumentList) :
    ∃ lead text, tree = .leaf .typeIdentifier .plain ⟨lead, .word, text⟩ ∧ IsName text
      ∧ text ∉ typeWords := by
  cases form with
  | other foreign => exact absurd ((by decide : constituents .argumentList ⊆ typeContext) known) foreign
  | name isName free => exact ⟨_, _, rfl, isName, free⟩
  | qualified | pointer | slice | array | function | struct =>
      simp [qualifiedTree, Tree.kind, constituents, expressionKinds] at known

theorem allocators_plain {word : String} (allocates : word ∈ allocators) :
    IsName word ∧ word ∉ typeWords ∧ operandKind word = .identifier := by
  simp only [allocators, List.mem_cons, List.not_mem_nil, or_false] at allocates
  rcases allocates with rfl | rfl <;> exact ⟨by decide, by decide, by decide⟩

/-- Every expression is recognised. -/
theorem expressed (bound : Nat) : Expressed bound := by
  induction bound with
  | zero => exact fun tree less => absurd less (by omega)
  | succ bound expressed =>
      intro tree less form known laid
      have within : size tree ≤ bound := by omega
      cases form with
      | other foreign => exact absurd known foreign
      | unbuilt foreign => simp [laid.isBuilt] at foreign
      | @int lead text =>
          have spelled : Number.isInt text = true :=
            laid.spelled ⟨lead, .int, text⟩ (by simp [Tree.tokens])
          exact ⟨.int text, spelled, by simp [Expr.tree, Layout.expression],
            by simp [Expr.tree, settled, Layout.unspacedToken], by simp [Expr.lead?]⟩
      | @name kind lead text same isName free =>
          subst same
          exact ⟨.name text, ⟨isName, free⟩, name_lays_expression⟩
      | @paren a b inner given =>
          obtain ⟨plain, expr, sound, lays⟩ := expressed.inside laid within (by decide)
            (own_mem (List.mem_cons_of_mem _ List.mem_cons_self)) (given_expression given)
          exact ⟨.paren expr, sound, paren_lays lays plain laid.plains⟩
      | @selector operand a b field form isName =>
          obtain ⟨-, expr, sound, lays⟩ := expressed.inside laid within (by decide)
            List.mem_cons_self form
          -- a dot after a number would be read as a part of it
          have other : operand.kind ≠ .intLiteral := by
            have spared := laid.isSpared
            simp only [isSpared, List.any_cons, kind_withRole] at spared
            simp_all
          exact ⟨.selector expr field, ⟨sound, lays.isInt other, isName⟩, selector_lays lays⟩
      | @call function list form listed uncalled =>
          obtain ⟨-, expr, sound, lays⟩ := expressed.inside laid within (by decide)
            List.mem_cons_self form
          obtain ⟨a, b, items, trees, trailing, rfl, joined, ending, forms⟩ := given_arguments listed
          have member : Syntax.Tree.node .argumentList .arguments (enclosed a b trees trailing) ∈
              [function.withRole .function,
               .node .argumentList .arguments (enclosed a b trees trailing)] := by
            simp
          have listLaid := laid.below member
          obtain ⟨arguments, soundAll, others⟩ := arguments_lay expressed listLaid
            ((size_lt member).le.trans within) (by decide)
            (fun item member => by simp [joined.subset item member]) forms
          refine ⟨.call expr arguments, ⟨sound, soundAll, fun allocates => ?_⟩,
            call_lays lays others joined ending listLaid.plains⟩
          simp [lays.isAllocator allocates] at uncalled
      -- without arguments, what allocates is called like any other function
      | @emptyAllocation lead word a b allocates =>
          obtain ⟨isName, free, plain⟩ := allocators_plain allocates
          have lays := @name_lays_expression lead word
          rw [plain] at lays
          have listLaid := laid.below (List.mem_cons_of_mem _ List.mem_cons_self)
          exact ⟨.call (.name word) .nil, ⟨⟨isName, free⟩, trivial, fun _ => rfl⟩,
            call_lays lays .nil .nil (.inl rfl) listLaid.plains⟩
      | @allocation lead word a b type items trees trailing allocates typed joined each ending =>
          have member : Syntax.Tree.node .argumentList .arguments (enclosed a b trees trailing) ∈
              [.leaf .identifier .function ⟨lead, .word, word⟩,
               .node .argumentList .arguments (enclosed a b trees trailing)] := by
            simp
          have listLaid := laid.below member
          have inside : ∀ item ∈ type :: items, item ∈ enclosed a b trees trailing :=
            fun item member => by simp [joined.subset item member]
          simp only [List.forall_mem_cons] at inside
          obtain ⟨arguments, sound, others⟩ := arguments_lay expressed listLaid
            ((size_lt member).le.trans within) (by decide) inside.2
            fun item member => given_expression (each item member)
          obtain ⟨c, text, rfl, isName, free⟩ := name_of_laid (given_type typed)
            (listLaid.mem_constituents inside.1 (named_of_given (by decide) typed))
          exact ⟨.allocation word text arguments, ⟨allocates, isName, free, sound⟩,
            allocation_lays others joined ending listLaid.plains⟩

end Expressions

end InterfaceMocks.Preservation
