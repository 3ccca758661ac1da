import InterfaceMocks.Proofs.Layout.Relaid
import InterfaceMocks.Proofs.Written.Layouts

/-!
Trees side by side that differ in their white space only, and lists of them. Where there are no
comments, the layout finds what it prints by role, or among the named children; items with commas
between them and items on lines of their own are printed in the same way all over.
-/

namespace InterfaceMocks.Layout

open InterfaceMocks.Syntax InterfaceMocks.Grammar InterfaceMocks.Text
open InterfaceMocks.Written (IsCut)

/-! The layout without comments. -/

def Plain (tree : Tree) : Prop := ∀ token ∈ tree.tokens, token.lead.filterMap Gap.comment? = []

section Plain

variable {trees : List Tree}

theorem lead_plain {tree : Tree} (plain : Plain tree) : tree.lead.filterMap Gap.comment? = [] := by
  unfold Tree.lead
  split
  · rfl
  · rename_i token rest tokens
    exact plain token (by simp [tokens])

theorem commentTexts_plain {tree : Tree} (plain : Plain tree) (counted : Bool) :
    commentTexts counted tree = [] := by
  cases counted <;> simp [commentTexts, lead_plain plain]

theorem itemsOf_plain (plain : ∀ tree ∈ trees, Plain tree) :
    Tree.itemsOf trees = (trees.filter Tree.isNamed).map .branch := by
  have rest {trees : List Tree} (plain : ∀ tree ∈ trees, Plain tree) :
      trees.flatMap Tree.withComments = (trees.filter Tree.isNamed).map .branch := by
    induction trees with
    | nil => rfl
    | cons tree rest ih =>
        have later := ih fun other member => plain other (List.mem_cons_of_mem _ member)
        have here := lead_plain (plain tree List.mem_cons_self)
        cases named : tree.isNamed <;>
          simp [Tree.withComments, Tree.commentsBefore, here, named, later]
  cases trees with
  | nil => rfl
  | cons first others =>
      have later := rest fun other member => plain other (List.mem_cons_of_mem _ member)
      cases named : first.isNamed <;> simp [Tree.itemsOf, named, later]

theorem expressionItems_plain (plain : ∀ tree ∈ trees, Plain tree) (commented : Bool) :
    expressionItems commented trees = (trees.filter Tree.isNamed).map expression := by
  induction trees generalizing commented with
  | nil => simp [expressionItems]
  | cons tree rest ih =>
      have later := ih (fun other member => plain other (List.mem_cons_of_mem _ member)) true
      have here := commentTexts_plain (plain tree List.mem_cons_self) commented
      cases named : tree.isNamed <;> simp [expressionItems, here, named, later]

theorem firstType_plain (plain : ∀ tree ∈ trees, Plain tree) (indent : Nat) (commented : Bool) :
    firstType indent commented trees = (trees.find? Tree.isNamed).map (type indent) := by
  induction trees generalizing commented with
  | nil => simp [firstType]
  | cons tree rest ih =>
      have later := ih (fun other member => plain other (List.mem_cons_of_mem _ member)) true
      have here := commentTexts_plain (plain tree List.mem_cons_self) commented
      cases named : tree.isNamed <;> simp [firstType, here, named, later]

end Plain

/-! Children are found by their roles. -/

section Roles

variable (role : Role) (indent : Nat) (trees : List Tree)

theorem expressionAt_eq :
    expressionAt role trees = (trees.find? fun tree => tree.role = role).map expression := by
  induction trees with
  | nil => simp [expressionAt]
  | cons tree rest ih => by_cases here : tree.role = role <;> simp [expressionAt, here, ih]

theorem typeAt_eq :
    typeAt indent role trees = (trees.find? fun tree => tree.role = role).map (type indent) := by
  induction trees with
  | nil => simp [typeAt]
  | cons tree rest ih => by_cases here : tree.role = role <;> simp [typeAt, here, ih]

theorem argumentsAt_eq :
    argumentsAt trees =
      (trees.find? fun tree => tree.role = .arguments).map fun tree =>
        expressionItems false tree.children := by
  induction trees with
  | nil => simp [argumentsAt]
  | cons tree rest ih =>
      cases tree with
      | leaf kind own token =>
          by_cases here : own = .arguments <;>
            simp [argumentsAt, here, ih, Tree.role, Tree.children, expressionItems]
      | node kind own children =>
          by_cases here : own = .arguments <;>
            simp [argumentsAt, here, ih, Tree.role, Tree.children]

theorem parametersAt_eq :
    parametersAt indent role trees =
      (trees.find? fun tree => tree.role = role).map fun tree =>
        ", ".intercalate (parameterTexts indent tree.children) := by
  induction trees with
  | nil => simp [parametersAt]
  | cons tree rest ih =>
      cases tree with
      | leaf kind own token =>
          by_cases here : own = role <;>
            simp [parametersAt, here, ih, Tree.role, Tree.children, parameterTexts]
      | node kind own children =>
          by_cases here : own = role <;> simp [parametersAt, here, ih, Tree.role, Tree.children]

def parameterOf (tree : Tree) : String :=
  parameterText tree.kind tree.children ((typeAt indent .type tree.children).getD "")

def isParameterBranch : Tree → Bool
  | .leaf _ _ _ => false
  | .node kind role children => isParameter (.node kind role children)

theorem parameterTexts_eq :
    parameterTexts indent trees = (trees.filter isParameterBranch).map (parameterOf indent) := by
  induction trees with
  | nil => simp [parameterTexts]
  | cons tree rest ih =>
      cases tree with
      | leaf kind role token => simp [parameterTexts, isParameterBranch, ih]
      | node kind role children =>
          by_cases here : isParameter (.node kind role children) = true <;>
            simp [parameterTexts, isParameterBranch, here, ih, parameterOf, Tree.kind, Tree.children]

def rowOf (tree : Tree) : FieldRow :=
  ⟨nameList tree.children,
    (typeAt (indent + 1) .type tree.children).getD (collapsed tree)
      ++ ((Tree.textAt .tag tree.children).map (" " ++ ·)).getD ""⟩

def isField : Tree → Bool
  | .leaf _ _ _ => false
  | .node kind _ _ => kind = .fieldDeclaration

theorem fieldRows_eq : fieldRows indent trees = (trees.filter isField).map (rowOf indent) := by
  induction trees with
  | nil => simp [fieldRows]
  | cons tree rest ih =>
      cases tree with
      | leaf kind role token => simp [fieldRows, isField, ih]
      | node kind role children =>
          by_cases here : kind = .fieldDeclaration <;>
            simp [fieldRows, isField, here, ih, rowOf, Tree.children]

def resultOf : Tree → String
  | .leaf kind role token => " " ++ type indent (.leaf kind role token)
  | .node kind role children =>
      if kind = .parameterList then
        if (parameterTexts indent children).isEmpty then ""
        else if isLoneType children then " " ++ ", ".intercalate (parameterTexts indent children)
        else " (" ++ ", ".intercalate (parameterTexts indent children) ++ ")"
      else " " ++ type indent (.node kind role children)

theorem resultAt_eq :
    resultAt indent trees =
      ((trees.find? fun tree => tree.role = .result).map (resultOf indent)).getD "" := by
  induction trees with
  | nil => simp [resultAt]
  | cons tree rest ih =>
      cases tree with
      | leaf kind own token =>
          by_cases here : own = .result <;> simp [resultAt, here, ih, Tree.role, resultOf]
      | node kind own children =>
          by_cases here : own = .result <;> simp [resultAt, here, ih, Tree.role, resultOf]

end Roles

/-! Trees side by side. -/

/-- Two trees without comments that differ in their white space only. -/
structure Twins (tree tree' : Tree) : Prop where
  same : unspaced tree' = unspaced tree
  formed : WellFormed tree
  cut : ∀ token ∈ tree.tokens, IsCut token
  plain : Plain tree
  plain' : Plain tree'

abbrev TwinLists : List Tree → List Tree → Prop := List.Forall₂ Twins

theorem twinLists {trees trees' : List Tree} (same : trees'.map unspaced = trees.map unspaced)
    (formed : ∀ tree ∈ trees, WellFormed tree) (cut : ∀ token ∈ Tree.tokensOf trees, IsCut token)
    (plain : ∀ token ∈ Tree.tokensOf trees, token.lead.filterMap Gap.comment? = [])
    (plain' : ∀ token ∈ Tree.tokensOf trees', token.lead.filterMap Gap.comment? = []) :
    TwinLists trees trees' := by
  induction trees generalizing trees' with
  | nil =>
      obtain rfl : trees' = [] := by simpa using same
      exact .nil
  | cons tree rest ih =>
      cases trees' with
      | nil => simp at same
      | cons tree' rest' =>
          simp only [List.map_cons, List.cons.injEq] at same
          simp only [Tree.tokensOf, List.mem_append] at cut plain plain'
          refine .cons ⟨same.1, formed tree List.mem_cons_self,
            fun token member => cut token (.inl member),
            fun token member => plain token (.inl member),
            fun token member => plain' token (.inl member)⟩ ?_
          exact ih same.2 (fun other member => formed other (List.mem_cons_of_mem _ member))
            (fun token member => cut token (.inr member))
            (fun token member => plain token (.inr member))
            fun token member => plain' token (.inr member)

namespace Twins

variable {tree tree' : Tree} {kind : Kind} {role : Role} {token : Token} {children : List Tree}

theorem leaf (twins : Twins (.leaf kind role token) tree') :
    ∃ token', tree' = .leaf kind role token' ∧ token'.text = token.text := by
  have same := twins.same
  cases tree' with
  | leaf kind' role' token' =>
      simp only [unspaced, Tree.leaf.injEq, unspacedToken, Token.mk.injEq] at same
      exact ⟨token', by rw [same.1, same.2.1], same.2.2.2.2⟩
  | node => simp [unspaced] at same

theorem node (twins : Twins (.node kind role children) tree') :
    ∃ children', tree' = .node kind role children' ∧ TwinLists children children' := by
  obtain ⟨same, formed, cut, plain, plain'⟩ := twins
  cases formed with
  | node formed below =>
      cases tree' with
      | leaf => simp [unspaced] at same
      | node kind' role' children' =>
          simp only [unspaced, Tree.node.injEq, unspacedAll_eq] at same
          exact ⟨children', by rw [same.1, same.2.1], twinLists same.2.2 below cut plain plain'⟩

theorem below (twins : Twins tree tree') : TwinLists tree.children tree'.children := by
  cases tree with
  | leaf =>
      obtain ⟨token', rfl, -⟩ := twins.leaf
      exact .nil
  | node =>
      obtain ⟨children', rfl, each⟩ := twins.node
      exact each

theorem kind_eq (twins : Twins tree tree') : tree'.kind = tree.kind := by
  cases tree with
  | leaf => obtain ⟨token', rfl, -⟩ := twins.leaf; rfl
  | node => obtain ⟨children', rfl, -⟩ := twins.node; rfl

theorem role_eq (twins : Twins tree tree') : tree'.role = tree.role := by
  cases tree with
  | leaf => obtain ⟨token', rfl, -⟩ := twins.leaf; rfl
  | node => obtain ⟨children', rfl, -⟩ := twins.node; rfl

theorem isNamed_eq (twins : Twins tree tree') : tree'.isNamed = tree.isNamed := by
  rw [Tree.isNamed, Tree.isNamed, twins.kind_eq]

theorem isMark {text : String} (twins : Twins tree tree') (mark : IsMark text tree) :
    IsMark text tree' := by
  obtain ⟨token, rfl, rfl⟩ := mark
  obtain ⟨token', rfl, same⟩ := twins.leaf
  exact ⟨token', rfl, same⟩

theorem isLeaf (twins : Twins tree tree') (leaf : IsLeaf role tree) :
    IsLeaf role tree' ∧ tree'.text = tree.text := by
  obtain ⟨kind, token, rfl, named⟩ := leaf
  obtain ⟨token', rfl, same⟩ := twins.leaf
  exact ⟨⟨kind, token', rfl, named⟩, by simp [Tree.text, Token.textOf, same]⟩

theorem shape (twins : Twins (.node kind role children) tree') (laid : kind ∈ laidKinds) :
    Formed kind children := by
  cases twins.formed with
  | node formed _ => exact formed laid

/-- Two trees of a kind that is laid out have their children side by side. -/
theorem branch (twins : Twins tree tree') (isKind : tree.kind = kind) (laid : kind ∈ laidKinds) :
    ∃ role children children', tree = .node kind role children ∧ tree' = .node kind role children'
      ∧ Formed kind children ∧ TwinLists children children' := by
  cases tree with
  | leaf own role token =>
      obtain rfl : own = kind := isKind
      cases twins.formed with
      | leaf other => exact absurd laid other
  | node own role children =>
      obtain rfl : own = kind := isKind
      have formed := twins.shape laid
      obtain ⟨children', rfl, each⟩ := twins.node
      exact ⟨role, children, children', rfl, rfl, formed, each⟩

theorem isItem {kinds : List Kind} (twins : Twins tree tree') (item : IsItem kinds tree) :
    IsItem kinds tree' := by
  rcases item with mark | ⟨kind, among, children, rfl⟩
  · exact .inl (twins.isNamed_eq.trans mark)
  · obtain ⟨children', rfl, -⟩ := twins.node
    exact .inr ⟨kind, among, children', rfl⟩

theorem isNode (twins : Twins tree tree') (node : IsNode kind role tree) :
    IsNode kind role tree' := by
  obtain ⟨children, rfl⟩ := node
  obtain ⟨children', rfl, -⟩ := twins.node
  exact ⟨children', rfl⟩

end Twins

theorem twins_append {first second all : List Tree} (twins : TwinLists (first ++ second) all) :
    ∃ first' second', all = first' ++ second' ∧ TwinLists first first' ∧ TwinLists second second' := by
  induction first generalizing all with
  | nil => exact ⟨[], all, rfl, .nil, twins⟩
  | cons tree rest ih =>
      cases twins with
      | cons here later =>
          obtain ⟨rest', second', rfl, left, right⟩ := ih later
          exact ⟨_ :: rest', second', rfl, .cons here left, right⟩

theorem twins_plain {trees trees' : List Tree} (twins : TwinLists trees trees') :
    (∀ tree ∈ trees, Plain tree) ∧ ∀ tree ∈ trees', Plain tree := by
  induction twins with
  | nil => simp
  | cons here _ ih => exact ⟨by simpa using ⟨here.plain, ih.1⟩, by simpa using ⟨here.plain', ih.2⟩⟩

section Lists

variable {trees trees' : List Tree} {p : Tree → Bool}

theorem twins_forall {holds : Tree → Prop}
    (kept : ∀ {tree tree'}, Twins tree tree' → holds tree → holds tree')
    (twins : TwinLists trees trees') (each : ∀ tree ∈ trees, holds tree) :
    ∀ tree ∈ trees', holds tree := by
  induction twins with
  | nil => simp
  | cons here _ ih =>
      have later := ih fun tree member => each tree (List.mem_cons_of_mem _ member)
      simpa using ⟨kept here (each _ List.mem_cons_self), later⟩

theorem twins_roles {role : Role} (twins : TwinLists trees trees')
    (roles : ∀ tree ∈ trees, tree.role = role) : ∀ tree ∈ trees', tree.role = role :=
  twins_forall (fun here own => here.role_eq.trans own) twins roles

variable (same : ∀ {tree tree'}, Twins tree tree' → p tree' = p tree)

include same

theorem twins_filter (twins : TwinLists trees trees') :
    TwinLists (trees.filter p) (trees'.filter p) := by
  induction twins with
  | nil => exact .nil
  | cons here _ ih =>
      rw [List.filter_cons, List.filter_cons, same here]
      split
      · exact .cons here ih
      · exact ih

theorem twins_isEmpty (twins : TwinLists trees trees') :
    (trees'.filter p).isEmpty = (trees.filter p).isEmpty := by
  have length := (twins_filter same twins).length_eq
  rw [Bool.eq_iff_iff, List.isEmpty_iff_length_eq_zero, List.isEmpty_iff_length_eq_zero, length]

end Lists

theorem Relaid.mark {tree tree' : Tree} {trees trees' : List Tree} {text x x' : String}
    (mark : IsMark text tree) (twins : Twins tree tree') (rest : Relaid trees trees' x x') :
    Relaid (tree :: trees) (tree' :: trees') (text ++ x) (text ++ x') := by
  obtain ⟨token, rfl, rfl⟩ := mark
  obtain ⟨token', rfl, same⟩ := twins.leaf
  have word : Relaid (.leaf .mark .plain token :: trees) (.leaf .mark .plain token' :: trees')
      (token.text ++ x) (token'.text ++ x') := .word same rest
  rwa [same] at word

theorem Relaid.leaf {tree tree' : Tree} {trees trees' : List Tree} {role : Role} {x x' : String}
    (leaf : IsLeaf role tree) (twins : Twins tree tree') (rest : Relaid trees trees' x x') :
    Relaid (tree :: trees) (tree' :: trees') (tree.text ++ x) (tree'.text ++ x') := by
  obtain ⟨kind, token, rfl, -⟩ := leaf
  obtain ⟨token', rfl, same⟩ := twins.leaf
  simp only [Tree.text, Tree.tokens, Token.textOf, List.map_nil, String.join_nil, String.append_empty]
  exact .word same rest

theorem Relaid.dropAll {dropped dropped' trees trees' : List Tree} {x x' : String}
    (twins : TwinLists dropped dropped') (rest : Relaid trees trees' x x') :
    Relaid (dropped ++ trees) (dropped' ++ trees') x x' := by
  induction twins with
  | nil => exact rest
  | cons here _ ih => exact .drop here.same ih

/-- Texts of two trees, made in the same way; they are not empty if the trees are not. -/
structure Prints (tree tree' : Tree) (text text' : String) : Prop where
  relaid : Relaid [tree] [tree'] text text'
  some : tree.tokens ≠ [] → text ≠ ""

theorem Prints.before {tree tree' : Tree} {trees trees' : List Tree} {text text' x x' : String}
    (prints : Prints tree tree' text text') (rest : Relaid trees trees' x x') :
    Relaid (tree :: trees) (tree' :: trees') (text ++ x) (text' ++ x') :=
  prints.relaid.append rest

theorem Twins.kept {tree tree' : Tree} (twins : Twins tree tree') :
    Prints tree tree' (collapsed tree) (collapsed tree') where
  relaid := by simpa using Relaid.kept twins.same Relaid.nil
  some some := collapse_ne_empty (opens_body twins.cut some).ink_pos

/-- A node that is taken apart. -/
theorem Relaid.within {kind : Kind} {role : Role} {children children' : List Tree}
    {text text' : String} (relaid : Relaid children children' text text') :
    Relaid [.node kind role children] [.node kind role children'] text text' :=
  .node (by simpa using relaid)

theorem Prints.node {kind : Kind} {role : Role} {children children' : List Tree}
    {text text' : String} (relaid : Relaid children children' text text') (some : text ≠ "") :
    Prints (.node kind role children) (.node kind role children') text text' :=
  ⟨relaid.within, fun _ => some⟩

/-- A tree is laid out by its tokens, as an expression and as a type. -/
structure Good (tree : Tree) : Prop where
  expression : ∀ {tree'}, Twins tree tree' →
    Prints tree tree' (expression tree) (expression tree')
  type : ∀ {tree'} (indent), Twins tree tree' →
    Prints tree tree' (type indent tree) (type indent tree')

inductive Throughout : Tree → Prop where
  | leaf {kind role token} (good : Good (.leaf kind role token)) : Throughout (.leaf kind role token)
  | node {kind role children} (good : Good (.node kind role children))
      (inner : ∀ child ∈ children, Throughout child) : Throughout (.node kind role children)

theorem Throughout.good {tree : Tree} (throughout : Throughout tree) : Good tree := by
  cases throughout <;> assumption

theorem Throughout.children {kind : Kind} {role : Role} {children : List Tree}
    (throughout : Throughout (.node kind role children)) : ∀ child ∈ children, Throughout child := by
  cases throughout
  assumption

/-! Lists. -/

/-- Items with commas between them. -/
theorem relaid_separated {each : Tree → Prop} {isItem : Tree → Bool} {f : Tree → String}
    {trees trees' : List Tree} (separated : Separated each trees) (twins : TwinLists trees trees')
    (items : ∀ tree tree', tree ∈ trees → each tree → Twins tree tree' →
      isItem tree = true ∧ isItem tree' = true ∧ tree.tokens ≠ []
        ∧ Prints tree tree' (f tree) (f tree'))
    (others : ∀ text tree, IsMark text tree → isItem tree = false) :
    Relaid trees trees' (", ".intercalate ((trees.filter isItem).map f))
        (", ".intercalate ((trees'.filter isItem).map f))
      ∧ ", ".intercalate ((trees.filter isItem).map f) ≠ ""
      ∧ trees.filter isItem ≠ [] ∧ trees'.filter isItem ≠ [] := by
  induction separated generalizing trees' with
  | @one tree holds =>
      cases twins with
      | cons here later =>
          cases later
          obtain ⟨item, item', inked, prints⟩ := items _ _ List.mem_cons_self holds here
          simpa [item, item'] using ⟨prints.relaid, prints.some inked⟩
  | @more tree comma rest holds mark _ ih =>
      obtain _ | ⟨here, _ | ⟨point, later⟩⟩ := twins
      rename_i tree' comma' rest'
      obtain ⟨item, item', inked, prints⟩ := items _ _ List.mem_cons_self holds here
      obtain ⟨relaid, some, listed, listed'⟩ := ih later fun other other' member =>
        items other other' (by simp [member])
      have skip : isItem comma = false := others "," comma mark
      have skip' : isItem comma' = false := others "," comma' (point.isMark mark)
      -- the comma that is printed is the one in the source; the space after it is not
      have comma : Relaid (comma :: rest) (comma' :: rest')
          (", " ++ ", ".intercalate ((rest.filter isItem).map f))
          (", " ++ ", ".intercalate ((rest'.filter isItem).map f)) := by
        have spaced := Relaid.mark mark point (.space " " (by decide) some relaid)
        rwa [← String.append_assoc, ← String.append_assoc] at spaced
      simp only [List.filter_cons, item, item', skip, skip', if_true, Bool.false_eq_true, if_false,
        List.map_cons]
      rw [String.intercalate_cons_of_ne_nil (by simpa using listed),
        String.intercalate_cons_of_ne_nil (by simpa using listed'), String.append_assoc,
        String.append_assoc]
      exact ⟨prints.before comma, by simp [prints.some inked], by simp, by simp⟩

/-- The same, with none of them or with a comma after the last. -/
theorem relaid_listed {each : Tree → Prop} {isItem : Tree → Bool} {f : Tree → String}
    {trees comma all : List Tree} (listed : Listed each trees)
    (trailing : AtMostOne (IsMark ",") comma) (twins : TwinLists (trees ++ comma) all)
    (items : ∀ tree tree', tree ∈ trees → each tree → Twins tree tree' →
      isItem tree = true ∧ isItem tree' = true ∧ tree.tokens ≠ []
        ∧ Prints tree tree' (f tree) (f tree'))
    (others : ∀ text tree, IsMark text tree → isItem tree = false) :
    Relaid (trees ++ comma) all (", ".intercalate (((trees ++ comma).filter isItem).map f))
        (", ".intercalate ((all.filter isItem).map f))
      ∧ ((trees ++ comma).filter isItem ≠ [] →
        ", ".intercalate (((trees ++ comma).filter isItem).map f) ≠ "") := by
  obtain ⟨trees', comma', rfl, twins, points⟩ := twins_append twins
  have skip : comma.filter isItem = [] ∧ comma'.filter isItem = [] := by
    rcases trailing with rfl | ⟨mark, rfl, isMark⟩
    · cases points
      simp
    · obtain _ | ⟨point, _ | _⟩ := points
      simp [others "," mark isMark, others "," _ (point.isMark isMark)]
  have dropped : Relaid comma comma' "" "" := by simpa using Relaid.dropAll points .nil
  rw [List.filter_append, List.filter_append, skip.1, skip.2, List.append_nil, List.append_nil]
  rcases listed with rfl | separated
  · cases twins
    simpa using dropped
  · obtain ⟨relaid, some, -⟩ := relaid_separated separated twins items others
    exact ⟨by simpa using relaid.append dropped, fun _ => some⟩

/-- The same in brackets. -/
theorem relaid_bracketed {each : Tree → Prop} {isItem : Tree → Bool} {f : Tree → String}
    {opener closer : String} {left right : Tree} {trees comma all : List Tree}
    (opens : IsMark opener left) (listed : Listed each trees)
    (trailing : AtMostOne (IsMark ",") comma) (closes : IsMark closer right)
    (twins : TwinLists (left :: (trees ++ (comma ++ [right]))) all)
    (items : ∀ tree tree', tree ∈ trees → each tree → Twins tree tree' →
      isItem tree = true ∧ isItem tree' = true ∧ tree.tokens ≠ []
        ∧ Prints tree tree' (f tree) (f tree'))
    (others : ∀ text tree, IsMark text tree → isItem tree = false) :
    Relaid (left :: (trees ++ (comma ++ [right]))) all
      (opener ++ (", ".intercalate (((left :: (trees ++ (comma ++ [right]))).filter isItem).map f)
        ++ closer))
      (opener ++ (", ".intercalate ((all.filter isItem).map f) ++ closer)) := by
  obtain _ | ⟨first, inner⟩ := twins
  rename_i left' inner'
  rw [← List.append_assoc] at inner ⊢
  obtain ⟨middle', last', rfl, inside, last⟩ := twins_append inner
  obtain _ | ⟨last, _ | _⟩ := last
  rename_i right'
  have skip (tree : Tree) (mark : ∃ text, IsMark text tree) : isItem tree = false :=
    mark.elim fun text mark => others text tree mark
  have core := (relaid_listed listed trailing inside items others).1
  have closing := Relaid.mark closes last .nil
  simp only [List.filter_cons, List.filter_append, skip left ⟨_, opens⟩, skip right ⟨_, closes⟩,
    skip left' ⟨_, first.isMark opens⟩, skip right' ⟨_, last.isMark closes⟩, Bool.false_eq_true,
    if_false, List.filter_nil, List.append_nil]
  simp only [List.filter_append] at core
  simpa using Relaid.mark opens first (core.append closing)

/-- Items on lines of their own; punctuation between them is left out. -/
theorem relaid_lines {isItem : Tree → Bool} {f : Tree → String} {space : String}
    (white : White space.toList) {trees trees' rest rest' : List Tree} {x x' : String}
    (twins : TwinLists trees trees')
    (items : ∀ tree tree', tree ∈ trees → Twins tree tree' → isItem tree' = isItem tree
      ∧ (isItem tree = true → Relaid [tree] [tree'] (f tree) (f tree')))
    (some : x ≠ "") (after : Relaid rest rest' x x') :
    Relaid (trees ++ rest) (trees' ++ rest')
      (String.join ((trees.filter isItem).map fun tree => space ++ f tree ++ "\n") ++ x)
      (String.join ((trees'.filter isItem).map fun tree => space ++ f tree ++ "\n") ++ x') := by
  induction twins with
  | nil => simpa using after
  | @cons tree tree' trees trees' here _ ih =>
      obtain ⟨same, relaid⟩ := items _ _ List.mem_cons_self here
      have later := ih fun other other' member => items other other' (by simp [member])
      cases item : isItem tree with
      -- a separator between the items
      | false =>
          simp only [List.filter_cons, item, same, Bool.false_eq_true, if_false]
          exact .drop here.same later
      | true =>
          have line := Relaid.space space white (by simp)
            ((relaid item).append (.space "\n" (by decide) (by simp [some]) later))
          simpa [List.filter_cons, item, same, String.append_assoc] using line

/-- A list in brackets with nothing between them. -/
theorem relaid_brackets {opener closer : String} {left right : Tree} {middle all : List Tree}
    (opens : IsMark opener left) (closes : IsMark closer right)
    (twins : TwinLists (left :: (middle ++ [right])) all) :
    Relaid (left :: (middle ++ [right])) all (opener ++ closer) (opener ++ closer) := by
  obtain _ | ⟨first, inner⟩ := twins
  obtain ⟨middle', last', rfl, inside, last⟩ := twins_append inner
  obtain _ | ⟨last, _ | _⟩ := last
  simpa using Relaid.mark opens first (Relaid.dropAll inside (Relaid.mark closes last .nil))

/-- Items in brackets, on lines of their own. -/
theorem relaid_block {isItem : Tree → Bool} {f : Tree → String} {opener closer : String}
    (space indent : String) (white : White space.toList) (blank : White indent.toList)
    {left right : Tree} {middle all : List Tree} (opens : IsMark opener left)
    (closes : IsMark closer right)
    (twins : TwinLists (left :: (middle ++ [right])) all)
    (items : ∀ tree tree', tree ∈ middle → Twins tree tree' → isItem tree' = isItem tree
      ∧ (isItem tree = true → Relaid [tree] [tree'] (f tree) (f tree')))
    (others : ∀ text tree, IsMark text tree → isItem tree = false) (some : closer ≠ "") :
    Relaid (left :: (middle ++ [right])) all
      (opener ++ ("\n" ++ (String.join (((left :: (middle ++ [right])).filter isItem).map
        fun tree => space ++ f tree ++ "\n") ++ (indent ++ closer))))
      (opener ++ ("\n" ++ (String.join ((all.filter isItem).map
        fun tree => space ++ f tree ++ "\n") ++ (indent ++ closer)))) := by
  obtain _ | ⟨first, inner⟩ := twins
  obtain ⟨middle', last', rfl, inside, last⟩ := twins_append inner
  obtain _ | ⟨last, _ | _⟩ := last
  have closing := Relaid.space indent blank (by simp [some]) (Relaid.mark closes last .nil)
  have lines := relaid_lines white inside items (by simp [some]) closing
  have skip {text : String} {tree : Tree} (mark : IsMark text tree) : isItem tree = false :=
    others text tree mark
  simp only [List.filter_cons, List.filter_append, skip opens, skip closes, skip (first.isMark opens),
    skip (last.isMark closes), Bool.false_eq_true, if_false, List.filter_nil, List.append_nil]
  simpa using Relaid.mark opens first (.space "\n" (by decide) (by simp [some]) lines)

end InterfaceMocks.Layout
