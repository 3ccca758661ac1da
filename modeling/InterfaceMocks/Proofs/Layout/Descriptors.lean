import InterfaceMocks.Extraction.Reconstruction
import InterfaceMocks.Proofs.Comments.Contents
import InterfaceMocks.Proofs.Layout.Twins

/-!
Two ways to the text of a type. A tree can be laid out as it stands, or its descriptor can be taken and
written out; for a type that is recognised as a whole, and whose arrays all have literals for lengths,
both give one text, at every indentation. What tells them apart is only what is not recognised and
lengths that are not literals, which the layout keeps and the descriptor drops.
-/

namespace InterfaceMocks.Layout

open InterfaceMocks.Syntax InterfaceMocks.Grammar InterfaceMocks.Extraction
open InterfaceMocks.Comments (Atomic parse_atomic)

mutual

def subtrees : Tree → List Tree
  | .leaf kind role token => [.leaf kind role token]
  | .node kind role children => .node kind role children :: subtreesOf children

def subtreesOf : List Tree → List Tree
  | [] => []
  | tree :: rest => subtrees tree ++ subtreesOf rest

end

/-- Whether a tree, if it is an array, has a basic literal for its length. -/
def HasLiteralLength (tree : Tree) : Prop :=
  tree.kind = .arrayType →
    (tree.child? .length).any (fun length => length.kind.isBasicLiteral) = true

instance (tree : Tree) : Decidable (HasLiteralLength tree) := inferInstanceAs (Decidable (_ → _))

def IsRendered (indent : Nat) (tree : Tree) : Prop :=
  (typeOf tree).isUnrecognised = false → type indent tree = (typeOf tree).render

theorem mem_subtreesOf {inner : Tree} {trees : List Tree} :
    inner ∈ subtreesOf trees ↔ ∃ tree ∈ trees, inner ∈ subtrees tree := by
  induction trees with
  | nil => simp [subtreesOf]
  | cons tree rest ih => simp [subtreesOf, ih]

theorem self_mem_subtrees (tree : Tree) : tree ∈ subtrees tree := by
  cases tree <;> simp [subtrees]

theorem atomic_subtree {inner tree : Tree} (inside : inner ∈ subtrees tree) (atomic : Atomic tree) :
    Atomic inner := by
  induction atomic with
  | leaf =>
      obtain rfl : inner = _ := by simpa [subtrees] using inside
      exact .leaf
  | node other below ih =>
      rw [subtrees, List.mem_cons, mem_subtreesOf] at inside
      rcases inside with rfl | ⟨child, member, inside⟩
      · exact .node other below
      · exact ih child member inside

section Children

variable {indent : Nat} {children : List Tree} {expr : TypeExpr}

theorem commentTexts_eq_nil {counted : Bool} {tree : Tree} :
    commentTexts counted tree = [] ↔ ¬ (counted && !tree.commentsBefore.isEmpty) = true := by
  cases counted <;> simp [commentTexts, Tree.commentsBefore]

/-- What stands first is found by both in the same way; a comment is found by neither as a type. -/
theorem firstType_rendered (rendered : ∀ child ∈ children, IsRendered indent child) {commented : Bool}
    (found : Extraction.firstType commented children = some expr)
    (recognised : expr.isUnrecognised = false) :
    firstType indent commented children = some expr.render := by
  induction children generalizing commented with
  | nil => simp [Extraction.firstType] at found
  | cons tree rest ih =>
      rw [Extraction.firstType] at found
      split at found
      · obtain rfl := Option.some.inj found
        simp [TypeExpr.isUnrecognised] at recognised
      · rename_i uncommented
        have none := commentTexts_eq_nil.2 uncommented
        by_cases named : tree.isNamed = true
        · rw [if_pos named] at found
          obtain rfl := Option.some.inj found
          have same := rendered tree List.mem_cons_self recognised
          simp [firstType, none, named, same]
        · rw [if_neg named] at found
          have later := ih (fun child member => rendered child (List.mem_cons_of_mem _ member)) found
          simp [firstType, none, named, later]

theorem elementType_eq :
    elementType children = (children.find? fun tree => tree.role = .element).map typeOf := by
  induction children with
  | nil => simp [elementType]
  | cons tree rest ih => by_cases here : tree.role = .element <;> simp [elementType, here, ih]

theorem typeAt_rendered (rendered : ∀ child ∈ children, IsRendered indent child)
    (found : elementType children = some expr) (recognised : expr.isUnrecognised = false) :
    typeAt indent .element children = some expr.render := by
  rw [elementType_eq] at found
  obtain ⟨child, first, rfl⟩ := Option.map_eq_some_iff.1 found
  have same := rendered child (List.mem_of_find?_eq_some first) recognised
  rw [typeAt_eq, first, Option.map_some, same]

/-- A literal is a single token, so that its text is kept whole on both sides. -/
theorem length_rendered (atomic : ∀ child ∈ children, Atomic child) {length : Tree}
    (found : children.find? (fun tree => tree.role = .length) = some length)
    (literal : length.kind.isBasicLiteral = true) :
    expressionAt .length children = some length.text ∧ lengthText children = some length.text := by
  have kept : lengthText children = some length.text := by
    rw [lengthText, found, Option.filter_some, if_pos literal, Option.map_some]
  refine ⟨?_, kept⟩
  rw [expressionAt_eq, found, Option.map_some]
  cases atomic length (List.mem_of_find?_eq_some found) with
  | leaf => simp [expression]
  | node other => simp [Tree.kind, other] at literal

end Children

/-- By induction on the tree, for any tree in which literals are single tokens. -/
theorem isRendered_of_atomic {tree : Tree} (atomic : Atomic tree) (indent : Nat)
    (lengths : ∀ inner ∈ subtrees tree, HasLiteralLength inner) : IsRendered indent tree := by
  induction atomic with
  | @leaf kind role token =>
      intro recognised
      unfold typeOf at recognised ⊢
      split at recognised
      · rfl
      · rfl
      · simp [TypeExpr.isUnrecognised] at recognised
  | @node kind role children other below ih =>
      intro recognised
      have rendered : ∀ child ∈ children, IsRendered indent child := fun child member =>
        ih child member fun inner inside => lengths inner (by
          rw [subtrees, List.mem_cons, mem_subtreesOf]
          exact .inr ⟨child, member, inside⟩)
      have own := lengths _ (self_mem_subtrees _)
      unfold typeOf at recognised ⊢
      split at recognised
      · cases package : Tree.textAt .package children with
        | none => simp [package, TypeExpr.isUnrecognised] at recognised
        | some package' =>
            cases name : Tree.textAt .name children with
            | none => simp [package, name, TypeExpr.isUnrecognised] at recognised
            | some name' =>
                simp [type, package, name, TypeExpr.render]
      · cases found : Extraction.firstType false children with
        | none => simp [found, TypeExpr.isUnrecognised] at recognised
        | some inner =>
            simp only [found, TypeExpr.isUnrecognised] at recognised
            have same := firstType_rendered rendered found recognised
            simp [type, same, TypeExpr.render]
      · cases found : elementType children with
        | none => simp [found, TypeExpr.isUnrecognised] at recognised
        | some element =>
            simp only [found, TypeExpr.isUnrecognised] at recognised
            have same := typeAt_rendered rendered found recognised
            simp [type, same, TypeExpr.render]
      · obtain ⟨length, long, literal⟩ := (Option.any_eq_true _ _).1 (own rfl)
        obtain ⟨laid, kept⟩ := length_rendered below long literal
        cases found : elementType children with
        | none => simp [found, TypeExpr.isUnrecognised] at recognised
        | some element =>
            simp only [found, TypeExpr.isUnrecognised] at recognised
            have same := typeAt_rendered rendered found recognised
            simp [type, same, laid, kept, TypeExpr.render]
      · simp [TypeExpr.isUnrecognised] at recognised

/-- In the trees of a source, a type that is recognised as a whole and whose arrays all have basic
literals for lengths is laid out as the text of its descriptor, wherever it stands. -/
theorem type_eq_render {text : String} {source : Source} (parsed : Source.parse? text = some source)
    {tree : Tree} (inside : tree ∈ subtreesOf source.trees) (indent : Nat)
    (recognised : (typeOf tree).isUnrecognised = false)
    (lengths : ∀ inner ∈ subtrees tree, HasLiteralLength inner) :
    type indent tree = (typeOf tree).render := by
  obtain ⟨root, top, below⟩ := mem_subtreesOf.1 inside
  have atomic := atomic_subtree below (parse_atomic parsed root top)
  exact isRendered_of_atomic atomic indent lengths recognised

/-- A type with spaces and a comment inside it. -/
def spacedType : String := "package p\n\nvar x [ 0x10 ] /* c */ [] * io . Reader\n"

theorem type_eq_render_spacedType :
    ∃ source tree, Source.parse? spacedType = some source ∧ variableType? source = some tree
      ∧ tree.text = "[ 0x10 ] /* c */ [] * io . Reader"
      ∧ typeOf tree = .array (some "0x10") (.array none (.pointer (.qualified "io" "Reader")))
      ∧ type 3 tree = "[0x10][]*io.Reader" := by
  have known : ((Source.parse? spacedType).any fun source => (variableType? source).any fun tree =>
      decide (tree ∈ subtreesOf source.trees) && decide (tree.text = "[ 0x10 ] /* c */ [] * io . Reader")
        && decide (typeOf tree =
          .array (some "0x10") (.array none (.pointer (.qualified "io" "Reader"))))
        && decide (∀ inner ∈ subtrees tree, HasLiteralLength inner)) = true := by
    decide +kernel
  obtain ⟨source, parsed, rest⟩ := (Option.any_eq_true _ _).1 known
  obtain ⟨tree, found, holds⟩ := (Option.any_eq_true _ _).1 rest
  simp only [Bool.and_eq_true, decide_eq_true_eq] at holds
  obtain ⟨⟨⟨inside, text⟩, descriptor⟩, lengths⟩ := holds
  refine ⟨source, tree, parsed, found, text, descriptor, ?_⟩
  rw [type_eq_render parsed inside 3 (by rw [descriptor]; rfl) lengths, descriptor]
  decide

end InterfaceMocks.Layout
