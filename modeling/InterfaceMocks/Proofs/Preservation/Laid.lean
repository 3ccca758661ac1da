import InterfaceMocks.Proofs.Layout.Idempotence
import InterfaceMocks.Proofs.Preservation.Literals
import InterfaceMocks.Proofs.Preservation.TypeTrees

/-!
Trees that are laid out anew, and how lists of them settle. What holds of such a tree holds of its
children, so that a construct is recognised from what it is made of.
-/

namespace InterfaceMocks.Preservation

open InterfaceMocks.Syntax InterfaceMocks.Grammar
open InterfaceMocks.Layout (Plain)

/-! The size of a tree. -/

mutual

def size : Tree → Nat
  | .leaf _ _ _ => 0
  | .node _ _ children => sizeAll children + 1

def sizeAll : List Tree → Nat
  | [] => 0
  | tree :: rest => size tree + sizeAll rest

end

section Size

variable {tree : Tree} {trees : List Tree} {kind : Kind} {role : Role}

@[simp] theorem size_withRole : size (tree.withRole role) = size tree := by
  cases tree <;> simp [size]

theorem size_le_of_mem (member : tree ∈ trees) : size tree ≤ sizeAll trees := by
  induction trees with
  | nil => simp at member
  | cons first rest ih =>
      simp only [sizeAll]
      rcases List.mem_cons.1 member with rfl | member
      · omega
      · have := ih member
        omega

theorem size_lt (member : tree ∈ trees) : size tree < size (.node kind role trees) := by
  have := size_le_of_mem member
  simp only [size]
  omega

end Size

/-! Trees that are laid out. -/

/-- A tree of constructs that are laid out anew, without those that change and without comments. -/
structure Laid (tree : Tree) : Prop where
  built : everywhere isBuilt tree = true
  spared : everywhere isSpared tree = true
  plain : Plain tree
  spelled : ∀ token ∈ tree.tokens, Spelled token.lexeme token.text.toList

section Laid

variable {tree child : Tree} {children : List Tree} {kind : Kind} {role : Role}

theorem everywhereAll_eq {holds : Kind → List Tree → Bool} (trees : List Tree) :
    everywhereAll holds trees = trees.all (everywhere holds) := by
  induction trees with
  | nil => simp [everywhereAll]
  | cons tree rest ih => simp [everywhereAll, ih]

theorem everywhere_node {holds : Kind → List Tree → Bool} :
    everywhere holds (.node kind role children) = true ↔
      holds kind children = true ∧ ∀ child ∈ children, everywhere holds child = true := by
  simp [everywhere, everywhereAll_eq]

theorem Laid.below (laid : Laid (.node kind role children)) (member : child ∈ children) :
    Laid child where
  built := (everywhere_node.1 laid.built).2 child member
  spared := (everywhere_node.1 laid.spared).2 child member
  plain token inside :=
    laid.plain token (by simpa [Tree.tokens] using mem_tokensOf.2 ⟨child, member, inside⟩)
  spelled token inside :=
    laid.spelled token (by simpa [Tree.tokens] using mem_tokensOf.2 ⟨child, member, inside⟩)

theorem laid_withRole : Laid (tree.withRole role) ↔ Laid tree := by
  cases tree <;>
    exact ⟨fun laid => ⟨laid.built, laid.spared, laid.plain, laid.spelled⟩,
      fun laid => ⟨laid.built, laid.spared, laid.plain, laid.spelled⟩⟩

theorem Laid.isBuilt (laid : Laid (.node kind role children)) :
    isBuilt kind children = true := (everywhere_node.1 laid.built).1

theorem Laid.isSpared (laid : Laid (.node kind role children)) :
    isSpared kind children = true := (everywhere_node.1 laid.spared).1

/-- What a construct is built from. -/
theorem Laid.mem_constituents (laid : Laid (.node kind role children)) (member : child ∈ children)
    (named : child.isNamed = true) : child.kind ∈ constituents kind := by
  have each := List.all_eq_true.1 laid.isBuilt child member
  simpa [named] using each

theorem Laid.plains (laid : Laid (.node kind role children)) : ∀ child ∈ children, Plain child :=
  fun _ member => (laid.below member).plain

@[simp] theorem isNamed_withRole : (tree.withRole role).isNamed = tree.isNamed := by
  cases tree <;> rfl

@[simp] theorem kind_withRole : (tree.withRole role).kind = tree.kind := by cases tree <;> rfl

@[simp] theorem role_withRole : (tree.withRole role).role = role := by cases tree <;> rfl

theorem named_of_given {g : Form} (one : g.givesOne false = true) (given : Given [] g [tree]) :
    tree.isNamed = true := by
  obtain ⟨tree', same, solid⟩ := given.derives.one one (by simp)
  exact List.singleton_inj.1 same ▸ solid.named

end Laid

/-! Settled lists. -/

/-- A tree that is left as it is where it stands in a list. -/
structure Firm (tree : Tree) : Prop where
  named : tree.isNamed = true
  bound : ¬ (tree.kind = .parameterList ∧ tree.role = .result)

section Settled

variable {tree : Tree} {items trees tail : List Tree} {role : Role}

@[simp] theorem settled_withRole : settled (tree.withRole role) = (settled tree).withRole role := by
  cases tree <;> simp [settled]

@[simp] theorem settled_kind : (settled tree).kind = tree.kind := by
  cases tree <;> simp [settled, Tree.kind]

@[simp] theorem settled_role : (settled tree).role = tree.role := by
  cases tree <;> simp [settled, Tree.role]

theorem isMarkIn_named (named : tree.isNamed = true) (texts : List String) :
    isMarkIn texts tree = false := by
  cases tree <;> simp_all [isMarkIn, Tree.isNamed, Tree.kind]

theorem isLoose_named (named : tree.isNamed = true) (next : Option Tree) :
    isLoose tree next = false := by
  simp [isLoose, isMarkIn_named named]

theorem settledAll_named (named : tree.isNamed = true) :
    settledAll (tree :: tail) = freed (settled tree) ++ settledAll tail := by
  simp [settledAll, isLoose_named named]

theorem Firm.settled (firm : Firm tree) :
    settledAll (tree :: tail) = settled tree :: settledAll tail := by
  have kept : freed (Preservation.settled tree) = [Preservation.settled tree] := by
    have bound := firm.bound
    simp only [freed, settled_kind, settled_role]
    simp_all
  rw [settledAll_named firm.named, kept]
  rfl

/-- Punctuation that is always kept. -/
theorem settledAll_punct {text : String} {lexeme : Lexeme} {lead : List Gap}
    (firm : text ∉ [";", "\x00", ","]) :
    settledAll (.leaf .mark .plain ⟨lead, lexeme, text⟩ :: tail) =
      .leaf .mark .plain ⟨[], lexeme, text⟩ :: settledAll tail := by
  simp only [List.mem_cons, List.not_mem_nil, or_false, not_or] at firm
  simp [settledAll, isLoose, isMarkIn, firm, freed, settled, Tree.kind, Layout.unspacedToken]

theorem settledAll_mark {space text : String} (firm : text ∉ [";", "\x00", ","]) :
    settledAll (Written.mark space text :: tail) =
      .leaf .mark .plain ⟨[], .mark, text⟩ :: settledAll tail := settledAll_punct firm

theorem settledAll_keyword {space text : String} (firm : text ∉ [";", "\x00", ","]) :
    settledAll (Written.keyword space text :: tail) =
      .leaf .mark .plain ⟨[], .word, text⟩ :: settledAll tail := settledAll_punct firm

def settledComma : Tree := settled (comma [])

theorem settledAll_comma {lead : List Gap} (named : tree.isNamed = true) :
    settledAll (comma lead :: tree :: tail) = settledComma :: settledAll (tree :: tail) := by
  have firm : isLoose (comma lead) (some tree) = false := by
    simp [isLoose, isMarkIn_named named]
    simp [isMarkIn, comma]
  rw [settledAll, List.head?_cons, firm]
  rfl

theorem settledAll_joined (joined : Joined items trees) (firm : ∀ item ∈ items, Firm item) :
    settledAll (trees ++ tail) = (items.map settled).intersperse settledComma ++ settledAll tail := by
  induction joined with
  | nil => rfl
  | one item => exact (firm item (by simp)).settled
  | @more item lead next items trees rest ih =>
      have later := ih fun other member => firm other (List.mem_cons_of_mem _ member)
      -- a comma is kept for the tree that comes next, so that this has to be seen
      have starts : ∃ others, trees = next :: others := by
        cases rest with
        | one => exact ⟨_, rfl⟩
        | more => exact ⟨_, rfl⟩
      obtain ⟨others, rfl⟩ := starts
      rw [List.cons_append, List.cons_append, (firm item (by simp)).settled, List.cons_append,
        settledAll_comma (firm next (by simp)).named, ← List.cons_append, later]
      simp

theorem settledAll_lined (lined : Lined items trees) (firm : ∀ item ∈ items, Firm item) :
    settledAll (trees ++ tail) = items.map settled ++ settledAll tail := by
  induction lined with
  | nil => rfl
  | item item rest ih =>
      rw [List.cons_append, (firm item (by simp)).settled,
        ih fun other member => firm other (List.mem_cons_of_mem _ member)]
      rfl
  | mark ends rest ih =>
      rw [List.cons_append, settledAll, ih firm]
      simp [isLoose, ends]

/-- A comma before the end of a list is not kept. -/
theorem settledAll_trailing {text : String} {lead : List Gap} (closer : text ∈ [")", "]", "\x7d"])
    (trailing : IsTrailing trees) :
    settledAll (trees ++ [.leaf .mark .plain ⟨lead, .mark, text⟩]) =
      [.leaf .mark .plain ⟨[], .mark, text⟩] := by
  have mark : settledAll [.leaf .mark .plain ⟨lead, .mark, text⟩] =
      [.leaf .mark .plain ⟨[], .mark, text⟩] := by
    simp only [List.mem_cons, List.not_mem_nil, or_false] at closer
    rcases closer with rfl | rfl | rfl <;>
      simp [settledAll, settled, isLoose, isMarkIn, freed, Layout.unspacedToken, Tree.kind]
  rcases trailing with rfl | ⟨lead', rfl⟩
  · exact mark
  · rw [List.singleton_append, settledAll, mark]
    have loose : isLoose (comma lead') (some (.leaf .mark .plain ⟨lead, .mark, text⟩)) = true := by
      simpa [isLoose, isMarkIn, comma] using closer
    simp [loose]

abbrev braced (b c : List Gap) (trees : List Tree) : List Tree :=
  .leaf .mark .plain ⟨b, .mark, "\x7b"⟩ :: (trees ++ [.leaf .mark .plain ⟨c, .mark, "\x7d"⟩])

abbrev enclosed (a b : List Gap) (trees trailing : List Tree) : List Tree :=
  .leaf .mark .plain ⟨a, .mark, "("⟩ ::
    (trees ++ (trailing ++ [.leaf .mark .plain ⟨b, .mark, ")"⟩]))

theorem settledAll_enclosed {a b : List Gap} {trailing : List Tree} (joined : Joined items trees)
    (ending : IsTrailing trailing) (firm : ∀ item ∈ items, Firm item) :
    settledAll (enclosed a b trees trailing) =
      .leaf .mark .plain ⟨[], .mark, "("⟩ ::
        ((items.map settled).intersperse settledComma ++ [.leaf .mark .plain ⟨[], .mark, ")"⟩]) := by
  rw [settledAll_punct (by decide), settledAll_joined joined firm,
    settledAll_trailing (by decide) ending]

/-! What is found among items. -/

theorem Joined.filter {p : Tree → Bool} (joined : Joined items trees)
    (holds : ∀ item ∈ items, p item = true) (others : ∀ lead, p (comma lead) = false) :
    trees.filter p = items := by
  induction joined with
  | nil => rfl
  | one item => simp [holds item]
  | more item lead rest ih =>
      simp [holds item, others, ih fun other member => holds other (List.mem_cons_of_mem _ member)]

/-- Neither the parentheses nor the commas are among what is looked for. -/
theorem Joined.filter_enclosed {p : Tree → Bool} {a b : List Gap} {trailing : List Tree}
    (joined : Joined items trees) (ending : IsTrailing trailing)
    (holds : ∀ item ∈ items, p item = true)
    (marks : ∀ token, p (.leaf .mark .plain token) = false) :
    (enclosed a b trees trailing).filter p = items := by
  have none : trailing.filter p = [] := by
    rcases ending with rfl | ⟨lead, rfl⟩
    · rfl
    · simp [comma, marks]
  simp [marks, none, joined.filter holds fun lead => marks _]

theorem Lined.filter {p : Tree → Bool} (lined : Lined items trees)
    (holds : ∀ item ∈ items, p item = true)
    (others : ∀ tree, isMarkIn [";", "\x00"] tree = true → p tree = false) :
    trees.filter p = items := by
  induction lined with
  | nil => rfl
  | item item rest ih =>
      simp [holds item, ih fun other member => holds other (List.mem_cons_of_mem _ member)]
  | mark ends rest ih => simp [others _ ends, ih holds]

theorem Joined.subset (joined : Joined items trees) : ∀ item ∈ items, item ∈ trees := by
  induction joined with
  | nil => simp
  | one item => simp
  | more item lead rest ih =>
      intro other member
      rcases List.mem_cons.1 member with rfl | member
      · simp
      · simp [ih other member]

theorem Lined.subset (lined : Lined items trees) : ∀ item ∈ items, item ∈ trees := by
  induction lined with
  | nil => simp
  | item item rest ih =>
      intro other member
      rcases List.mem_cons.1 member with rfl | member
      · simp
      · simp [ih other member]
  | mark ends rest ih => exact fun item member => List.mem_cons_of_mem _ (ih item member)

end Settled

/-! What settles is made of the tokens of the source. -/

section Tokens

theorem tokens_inside {tree child : Tree} (member : child ∈ tree.children) :
    ∀ token ∈ child.tokens, token ∈ tree.tokens := by
  intro token inside
  cases tree with
  | leaf => simp [Tree.children] at member
  | node kind role children => simpa using mem_tokensOf.2 ⟨child, member, inside⟩

theorem freed_tokens (tree : Tree) : ∀ token ∈ Tree.tokensOf (freed tree), token ∈ tree.tokens := by
  intro token member
  have whole : token ∈ Tree.tokensOf [tree] → token ∈ tree.tokens := by simp
  unfold freed at member
  split at member
  · split at member
    · simp at member
    · split at member
      · obtain ⟨type, among, inside⟩ := mem_tokensOf.1 member
        obtain ⟨parameter, parameters, found⟩ := List.mem_filterMap.1 among
        obtain ⟨child, typed, rfl⟩ := Option.map_eq_some_iff.1 found
        rw [Written.tokens_withRole] at inside
        exact tokens_inside (List.mem_of_mem_filter parameters) token
          (tokens_inside (List.mem_of_find?_eq_some typed) token inside)
      · exact whole member
  · exact whole member

mutual

theorem settled_tokens (tree : Tree) :
    ∀ token ∈ (settled tree).tokens, token.text ∈ tree.tokens.map Token.text := by
  cases tree with
  | leaf kind role token => simp [settled, Layout.unspacedToken]
  | node kind role children => simpa [settled] using settledAll_tokens children

theorem settledAll_tokens (trees : List Tree) :
    ∀ token ∈ Tree.tokensOf (settledAll trees), token.text ∈ (Tree.tokensOf trees).map Token.text := by
  cases trees with
  | nil => simp [settledAll]
  | cons tree rest =>
      intro token member
      rw [settledAll, tokensOf_append, List.mem_append] at member
      rw [Tree.tokensOf, List.map_append, List.mem_append]
      refine member.imp (fun here => ?_) (settledAll_tokens rest token)
      split at here
      · simp at here
      · exact settled_tokens tree token (freed_tokens _ token here)

end

end Tokens

end InterfaceMocks.Preservation
