import InterfaceMocks.Layout.Declarations
import InterfaceMocks.Proofs.Grammar.Shapes
import InterfaceMocks.Proofs.Written.Lossless

/-!
Texts that are made of the tokens of trees, in their order. `Relaid` says of a text that it consists of
the words of some trees, of constructs that are kept as they are written and of white space; some
trees may be left out. It says so of two texts side by side, made in the same way of trees that differ
in their white space only. If the first text is the source of the second trees, nothing was left out,
each construct stands where its tokens stand, and the two texts are the same.
-/

namespace InterfaceMocks.Layout

open InterfaceMocks.Syntax InterfaceMocks.Grammar InterfaceMocks.Text
open InterfaceMocks.Written (IsCut chars chars_cons chars_append)

/-! Trees can be compared. -/

mutual

def decideTree : (first second : Tree) → Decidable (first = second)
  | .leaf _ _ _, .leaf _ _ _ => decidable_of_iff' _ (Tree.leaf.injEq ..).to_iff
  | .node _ _ children, .node _ _ children' =>
      have := decideTrees children children'
      decidable_of_iff' _ (Tree.node.injEq ..).to_iff
  | .leaf _ _ _, .node _ _ _ => .isFalse (by simp)
  | .node _ _ _, .leaf _ _ _ => .isFalse (by simp)

def decideTrees : (first second : List Tree) → Decidable (first = second)
  | [], [] => .isTrue rfl
  | tree :: rest, tree' :: rest' =>
      have := decideTree tree tree'
      have := decideTrees rest rest'
      decidable_of_iff' _ (List.cons.injEq ..).to_iff
  | [], _ :: _ => .isFalse (by simp)
  | _ :: _, [] => .isFalse (by simp)

end

instance : DecidableEq Tree := decideTree

/-! Trees without their white space. -/

def unspacedToken (token : Token) : Token := { token with lead := [] }

mutual

/-- A tree without what stands between its tokens. -/
def unspaced : Tree → Tree
  | .leaf kind role token => .leaf kind role (unspacedToken token)
  | .node kind role children => .node kind role (unspacedAll children)

def unspacedAll : List Tree → List Tree
  | [] => []
  | tree :: rest => unspaced tree :: unspacedAll rest

end

theorem unspacedAll_eq (trees : List Tree) : unspacedAll trees = trees.map unspaced := by
  induction trees with
  | nil => rfl
  | cons tree rest ih => rw [unspacedAll, ih, List.map_cons]

mutual

theorem tokens_unspaced (tree : Tree) : (unspaced tree).tokens = tree.tokens.map unspacedToken := by
  cases tree with
  | leaf kind role token => simp [unspaced]
  | node kind role children => simpa [unspaced] using tokensOf_unspaced children

theorem tokensOf_unspaced (trees : List Tree) :
    Tree.tokensOf (unspacedAll trees) = (Tree.tokensOf trees).map unspacedToken := by
  cases trees with
  | nil => rfl
  | cons tree rest => simp [unspacedAll, tokens_unspaced tree, tokensOf_unspaced rest]

end

/-! The ink of tokens. -/

def Spaced (token : Token) : Prop := White (Gap.textOf token.lead).toList

instance (token : Token) : Decidable (Spaced token) :=
  inferInstanceAs (Decidable (White _))

def inkOf (tokens : List Token) : Nat := ink (tokens.flatMap fun token => token.text.toList)

def body (tokens : List Token) : List Char := (Token.textOf tokens).toList

@[simp] theorem inkOf_nil : inkOf [] = 0 := rfl

@[simp] theorem inkOf_cons (token : Token) (rest : List Token) :
    inkOf (token :: rest) = ink token.text.toList + inkOf rest := by
  simp [inkOf]

@[simp] theorem inkOf_append (first second : List Token) :
    inkOf (first ++ second) = inkOf first + inkOf second := by
  simp [inkOf]

theorem inkOf_unspacedAll {trees trees' : List Tree}
    (same : trees'.map unspaced = trees.map unspaced) :
    inkOf (Tree.tokensOf trees') = inkOf (Tree.tokensOf trees) := by
  rw [← unspacedAll_eq, ← unspacedAll_eq] at same
  have tokens := congrArg Tree.tokensOf same
  rw [tokensOf_unspaced, tokensOf_unspaced] at tokens
  simpa [inkOf, List.flatMap_map, unspacedToken] using congrArg inkOf tokens

theorem inkOf_unspaced {tree tree' : Tree} (same : unspaced tree' = unspaced tree) :
    inkOf tree'.tokens = inkOf tree.tokens := by
  have single : inkOf (Tree.tokensOf [tree']) = inkOf (Tree.tokensOf [tree]) :=
    inkOf_unspacedAll (by simpa using same)
  simpa using single

theorem isEmpty_of_unspaced {tree tree' : Tree} (same : unspaced tree' = unspaced tree) :
    tree'.tokens = [] ↔ tree.tokens = [] := by
  have tokens := congrArg (fun tree => tree.tokens.length) same
  simp only [tokens_unspaced, List.length_map] at tokens
  rw [← List.length_eq_zero_iff, ← List.length_eq_zero_iff, tokens]

@[simp] theorem body_nil : body [] = [] := rfl

theorem body_cons (token : Token) (rest : List Token) :
    body (token :: rest) = token.text.toList ++ chars rest := by
  rw [body, Token.textOf, String.toList_append, Written.toList_written]

theorem body_append {first : List Token} (some : first ≠ []) (second : List Token) :
    body (first ++ second) = body first ++ chars second := by
  cases first with
  | nil => exact absurd rfl some
  | cons token rest => rw [List.cons_append, body_cons, body_cons, chars_append, List.append_assoc]

theorem chars_eq (token : Token) (rest : List Token) :
    chars (token :: rest) = (Gap.textOf token.lead).toList ++ body (token :: rest) := by
  rw [body_cons, chars_cons, Token.source, String.toList_append, List.append_assoc]

/-- What stands before the first token is white space. -/
theorem chars_spaced {tokens : List Token} (spaced : ∀ token ∈ tokens, Spaced token) :
    ∃ space, White space ∧ chars tokens = space ++ body tokens := by
  cases tokens with
  | nil => exact ⟨[], white_nil, rfl⟩
  | cons token rest => exact ⟨_, spaced token List.mem_cons_self, chars_eq token rest⟩

theorem chars_tree {tree : Tree} (some : tree.tokens ≠ []) :
    chars tree.tokens = (Gap.textOf tree.lead).toList ++ body tree.tokens := by
  unfold Tree.lead
  cases tokens : tree.tokens with
  | nil => exact absurd tokens some
  | cons token rest => exact chars_eq token rest

theorem inkOf_le (tokens : List Token) : inkOf tokens ≤ ink (chars tokens) := by
  induction tokens with
  | nil => simp
  | cons token rest ih =>
      simp only [inkOf_cons, chars_cons, Token.source, String.toList_append, ink_append]
      omega

/-- If all the ink is in the tokens, then nothing but white space stands between them. -/
theorem spaced_of_ink {tokens : List Token} (amount : ink (chars tokens) ≤ inkOf tokens) :
    ∀ token ∈ tokens, Spaced token := by
  induction tokens with
  | nil => simp
  | cons token rest ih =>
      simp only [inkOf_cons, chars_cons, Token.source, String.toList_append, ink_append] at amount
      have bound := inkOf_le rest
      have here : Spaced token := ink_eq_zero.1 (by omega)
      simpa using ⟨here, ih (by omega)⟩

theorem ink_chars {tokens : List Token} (spaced : ∀ token ∈ tokens, Spaced token) :
    ink (chars tokens) = inkOf tokens := by
  induction tokens with
  | nil => rfl
  | cons token rest ih =>
      have lead : White (Gap.textOf token.lead).toList := spaced token List.mem_cons_self
      rw [chars_cons, Token.source, String.toList_append, ink_append, ink_append, lead.ink,
        ih fun other member => spaced other (List.mem_cons_of_mem _ member), inkOf_cons,
        Nat.zero_add]

theorem ink_body {tokens : List Token} (spaced : ∀ token ∈ tokens, Spaced token) :
    ink (body tokens) = inkOf tokens := by
  obtain ⟨space, white, split⟩ := chars_spaced spaced
  have amount := ink_chars spaced
  rw [split, ink_append, white.ink, Nat.zero_add] at amount
  exact amount

theorem opens_body {tokens : List Token} (cut : ∀ token ∈ tokens, IsCut token)
    (some : tokens ≠ []) : Opens (body tokens) := by
  cases tokens with
  | nil => exact absurd rfl some
  | cons token rest =>
      rw [body_cons]
      exact (cut token List.mem_cons_self).opens.append _

theorem closes_body {tokens : List Token} (cut : ∀ token ∈ tokens, IsCut token)
    (some : tokens ≠ []) : Closes (body tokens) := by
  induction tokens with
  | nil => exact absurd rfl some
  | cons token rest ih =>
      rw [body_cons]
      cases rest with
      | nil => simpa [chars] using (cut token List.mem_cons_self).closes
      | cons next others =>
          have later := ih (fun other member => cut other (List.mem_cons_of_mem _ member)) (by simp)
          rw [chars_eq]
          exact (later.append _).append _

theorem ink_pos {tokens : List Token} (cut : ∀ token ∈ tokens, IsCut token)
    (none : inkOf tokens = 0) : tokens = [] := by
  cases tokens with
  | nil => rfl
  | cons token rest =>
      have positive := (cut token List.mem_cons_self).opens.ink_pos
      simp at none
      omega

/-! Texts made of trees. -/

inductive Relaid : List Tree → List Tree → String → String → Prop where
  | nil : Relaid [] [] "" ""
  -- white space never ends a text
  | space {trees trees' text text'} (space : String) (white : White space.toList) (some : text ≠ "")
      (rest : Relaid trees trees' text text') :
      Relaid trees trees' (space ++ text) (space ++ text')
  | drop {tree tree' trees trees' text text'} (same : unspaced tree' = unspaced tree)
      (rest : Relaid trees trees' text text') :
      Relaid (tree :: trees) (tree' :: trees') text text'
  | word {kind role token token' trees trees' text text'} (same : token'.text = token.text)
      (rest : Relaid trees trees' text text') :
      Relaid (.leaf kind role token :: trees) (.leaf kind role token' :: trees')
        (token.text ++ text) (token'.text ++ text')
  | kept {tree tree' trees trees' text text'} (same : unspaced tree' = unspaced tree)
      (rest : Relaid trees trees' text text') :
      Relaid (tree :: trees) (tree' :: trees') (collapsed tree ++ text) (collapsed tree' ++ text')
  | node {kind role children children' trees trees' text text'}
      (inside : Relaid (children ++ trees) (children' ++ trees') text text') :
      Relaid (.node kind role children :: trees) (.node kind role children' :: trees') text text'

namespace Relaid

variable {trees trees' others others' : List Tree} {text text' more more' : String}

theorem append (first : Relaid trees trees' text text') (second : Relaid others others' more more') :
    Relaid (trees ++ others) (trees' ++ others') (text ++ more) (text' ++ more') := by
  induction first with
  | nil => simpa using second
  | space space white some _ ih =>
      rw [String.append_assoc, String.append_assoc]
      exact .space space white (by simp [some]) ih
  | drop same _ ih => exact .drop same ih
  | word same _ ih =>
      rw [String.append_assoc, String.append_assoc]
      exact .word same ih
  | kept same _ ih =>
      rw [String.append_assoc, String.append_assoc]
      exact .kept same ih
  | node _ ih =>
      rw [List.append_assoc, List.append_assoc] at ih
      exact .node ih

/-- A text has no more ink than the trees that it is made of. -/
theorem ink_le (relaid : Relaid trees trees' text text')
    (spaced : ∀ token ∈ Tree.tokensOf trees, Spaced token) :
    ink text.toList ≤ inkOf (Tree.tokensOf trees) := by
  induction relaid with
  | nil => simp
  | space space white _ _ ih => simpa [white.ink] using ih spaced
  | drop same _ ih =>
      have := ih fun token member => spaced token (by simp [member])
      simp only [Tree.tokensOf, inkOf_append]
      omega
  | word same _ ih =>
      have := ih fun token member => spaced token (by simp [member])
      simp only [Tree.tokensOf, Tree.tokens, inkOf_append, inkOf_cons, inkOf_nil,
        String.toList_append, ink_append]
      omega
  | @kept tree _ _ _ _ _ same _ ih =>
      have := ih fun token member => spaced token (by simp [member])
      have own : ink (collapsed tree).toList = inkOf tree.tokens := by
        rw [collapsed, ink_collapse]
        exact ink_body fun token member => spaced token (by simp [member])
      simp only [Tree.tokensOf, inkOf_append, String.toList_append, ink_append]
      omega
  | node _ ih =>
      simpa [tokensOf_append] using ih (by simpa [tokensOf_append] using spaced)

theorem inkOf_eq (relaid : Relaid trees trees' text text') :
    inkOf (Tree.tokensOf trees') = inkOf (Tree.tokensOf trees) := by
  induction relaid with
  | nil => rfl
  | space _ _ _ _ ih => exact ih
  | drop same _ ih => simp [inkOf_unspaced same, ih]
  | word same _ ih => simp [same, ih]
  | kept same _ ih => simp [inkOf_unspaced same, ih]
  | node _ ih => simpa [tokensOf_append] using ih

/-- A text that is made of trees ends with ink. -/
theorem closes (relaid : Relaid trees trees' text text')
    (cut : ∀ token ∈ Tree.tokensOf trees, IsCut token) (some : text ≠ "") : Closes text.toList := by
  induction relaid with
  | nil => exact absurd rfl some
  | space space white some' _ ih =>
      rw [String.toList_append]
      exact (ih cut some').append _
  | drop same _ ih => exact ih (fun token member => cut token (by simp [member])) some
  | @word kind role token token' _ _ text _ same _ ih =>
      rw [String.toList_append]
      by_cases last : text = ""
      · subst last
        simpa using (cut token (by simp)).closes
      · exact (ih (fun token member => cut token (by simp [member])) last).append _
  | @kept tree _ _ _ text _ same _ ih =>
      rw [String.toList_append]
      by_cases last : text = ""
      · subst last
        simp only [String.append_empty] at some
        simpa [collapsed] using closes_collapse some
      · exact (ih (fun token member => cut token (by simp [member])) last).append _
  | node _ ih => exact ih (by simpa [tokensOf_append] using cut) some

/-- What is left out of a text that is the source of all its trees has no tokens: the text has no more
ink than the trees that come after. -/
theorem nothing_dropped {tree' : Tree} (rest : Relaid trees trees' text text')
    (spaced : ∀ token ∈ Tree.tokensOf trees, Spaced token)
    (spaced' : ∀ token ∈ Tree.tokensOf (tree' :: trees'), Spaced token)
    (cut' : ∀ token ∈ tree'.tokens, IsCut token) {before after after' : List Char}
    (white : White before) (blank : White after) (blank' : White after')
    (source : text.toList ++ after = before ++ (body (Tree.tokensOf (tree' :: trees')) ++ after')) :
    tree'.tokens = [] := by
  have amount := congrArg ink source
  rw [ink_append, ink_append, ink_append, ink_body spaced', white.ink, blank.ink, blank'.ink]
    at amount
  simp only [Tree.tokensOf, inkOf_append] at amount
  have bound := rest.ink_le spaced
  rw [← rest.inkOf_eq] at bound
  exact ink_pos cut' (by omega)

/-- A construct that is kept stands where its tokens stand: both texts start and end with ink, and have
as much of it. -/
theorem stands_kept {tree tree' : Tree} (same : unspaced tree' = unspaced tree)
    (spaced : ∀ token ∈ tree.tokens, Spaced token) (spaced' : ∀ token ∈ tree'.tokens, Spaced token)
    (cut' : ∀ token ∈ tree'.tokens, IsCut token) (some : tree'.tokens ≠ [])
    {before after after' : List Char} (white : White before)
    (source : (collapsed tree).toList ++ after = before ++ (body tree'.tokens ++ after')) :
    before = [] ∧ (collapsed tree).toList = body tree'.tokens := by
  have amount : ink tree.text.toList = inkOf tree'.tokens := by
    rw [inkOf_unspaced same]
    exact ink_body spaced
  have nonempty : collapsed tree ≠ "" := by
    refine collapse_ne_empty ?_
    rw [amount]
    exact Nat.pos_of_ne_zero fun nothing => some (ink_pos cut' nothing)
  obtain rfl := white_eq_nil_of_opens white ((opens_collapse nonempty).append _) source
  refine ⟨rfl, closes_unique (closes_collapse nonempty) (closes_body cut' some) ?_ source⟩
  rw [collapsed, ink_collapse, amount]
  exact (ink_body spaced').symm

/-- If the text is the source of the second trees, up to white space around it, then the two texts
are the same. -/
theorem fixed (relaid : Relaid trees trees' text text')
    (spaced : ∀ token ∈ Tree.tokensOf trees, Spaced token)
    (spaced' : ∀ token ∈ Tree.tokensOf trees', Spaced token)
    (cut' : ∀ token ∈ Tree.tokensOf trees', IsCut token) {before after after' : List Char}
    (white : White before) (blank : White after) (blank' : White after')
    (source : text.toList ++ after = before ++ (body (Tree.tokensOf trees') ++ after')) :
    text' = text := by
  induction relaid generalizing before after after' with
  | nil => rfl
  | @space trees trees' text text' space isWhite some rest ih =>
      suffices same : text' = text by rw [same]
      rw [String.toList_append, List.append_assoc] at source
      by_cases none : Tree.tokensOf trees' = []
      · -- without tokens there is nothing but white space, and the rest may be taken for it
        have whole : White (space.toList ++ (text.toList ++ after)) := by
          rw [source, none]
          simpa using ⟨white, blank'⟩
        simp only [white_append] at whole
        exact ih spaced spaced' cut' whole.2.1 white_nil white_nil (by simp [none])
      · obtain ⟨left, split, rest⟩ := white_before isWhite white
          ((opens_body cut' none).append after') source
        rw [split, white_append] at white
        exact ih spaced spaced' cut' white.2 blank blank' rest
  | @drop tree tree' trees trees' text text' same rest ih =>
      have later : ∀ token ∈ Tree.tokensOf trees, Spaced token :=
        fun token member => spaced token (by simp [member])
      have none := rest.nothing_dropped later spaced'
        (fun token member => cut' token (by simp [member])) white blank blank' source
      simp only [Tree.tokensOf, none, List.nil_append] at source spaced' cut'
      exact ih later spaced' cut' white blank blank' source
  | @word kind role token token' trees trees' text text' same rest ih =>
      have opens : Opens token'.text.toList := (cut' token' (by simp)).opens
      simp only [Tree.tokensOf, Tree.tokens, List.singleton_append, body_cons, same,
        String.toList_append, List.append_assoc] at source opens
      -- both sides go on with ink, so nothing stands before the word
      obtain rfl := white_eq_nil_of_opens white (opens.append _) source
      have later' : ∀ other ∈ Tree.tokensOf trees', Spaced other :=
        fun other member => spaced' other (by simp [member])
      obtain ⟨space, isWhite, split⟩ := chars_spaced later'
      rw [List.nil_append, split, List.append_assoc] at source
      rw [same, ih (fun other member => spaced other (by simp [member])) later'
        (fun other member => cut' other (by simp [member])) isWhite blank blank'
        (List.append_cancel_left source)]
  | @kept tree tree' trees trees' text text' same rest ih =>
      simp only [Tree.tokensOf, List.forall_mem_append] at spaced spaced' cut'
      simp only [Tree.tokensOf, String.toList_append, List.append_assoc] at source
      by_cases none : tree'.tokens = []
      · have empty : collapsed tree = "" ∧ collapsed tree' = "" := by
          simp only [collapsed, Tree.text, none, (isEmpty_of_unspaced same).1 none, Token.textOf]
          decide
        simp only [empty, none, String.toList_empty, List.nil_append, String.empty_append]
          at source ⊢
        exact ih spaced.2 spaced'.2 cut'.2 white blank blank' source
      · rw [body_append none, List.append_assoc] at source
        obtain ⟨rfl, whole⟩ := stands_kept same spaced.1 spaced'.1 cut'.1 none white source
        have written : tree'.text = collapsed tree := String.toList_injective whole.symm
        obtain ⟨space, isWhite, split⟩ := chars_spaced spaced'.2
        rw [List.nil_append, whole, split, List.append_assoc] at source
        rw [ih spaced.2 spaced'.2 cut'.2 isWhite blank blank' (List.append_cancel_left source)]
        -- collapsing it once more changes nothing
        rw [collapsed, written, collapsed, collapse_collapse]
  | node _ ih =>
      simp only [Tree.tokensOf, Tree.tokens, ← tokensOf_append] at spaced spaced' cut' source
      exact ih spaced spaced' cut' white blank blank' source

end Relaid

end InterfaceMocks.Layout
