import InterfaceMocks.Proofs.Grammar.Operations
import InterfaceMocks.Proofs.Grammar.Derivation

/-!
Derivations taken apart: what an expression derives, in terms of what its parts derive, and which
expressions derive one tree, or at least one token.
-/

namespace InterfaceMocks.Grammar

open InterfaceMocks.Syntax

/-! Derivations, inverted. -/

section Inversion

variable {held trees : List Tree} {first second body : Form}

theorem derives_empty : Derives rules held .empty trees ↔ trees = [] :=
  ⟨fun derives => by cases derives; rfl, fun same => same ▸ .empty⟩

theorem derives_leaf {kind : Kind} {shape : Shape} :
    Derives rules held (.leaf kind shape) trees ↔
      ∃ token, shape.Admits token ∧ Lexed token ∧ trees = [.leaf kind .plain token] := by
  constructor
  · intro derives
    cases derives with
    | leaf admits lexed => exact ⟨_, admits, lexed, rfl⟩
  · rintro ⟨token, admits, lexed, rfl⟩
    exact .leaf admits lexed

theorem derives_seq :
    Derives rules held (.seq first second) trees ↔
      ∃ before after, Derives rules held first before ∧ Derives rules held second after
        ∧ trees = before ++ after := by
  constructor
  · intro derives
    cases derives with
    | seq before after => exact ⟨_, _, before, after, rfl⟩
  · rintro ⟨before, after, left, right, rfl⟩
    exact .seq left right

theorem derives_alt :
    Derives rules held (.alt first second) trees ↔
      Derives rules held first trees ∨ Derives rules held second trees := by
  constructor
  · intro derives
    cases derives with
    | left chosen => exact .inl chosen
    | right chosen => exact .inr chosen
  · rintro (chosen | chosen)
    · exact .left chosen
    · exact .right chosen

theorem derives_node {kind : Kind} :
    Derives rules held (.node kind body) trees ↔
      ∃ children, Derives rules held body children ∧ trees = [.node kind .plain children] := by
  constructor
  · intro derives
    cases derives with
    | node inside => exact ⟨_, inside, rfl⟩
  · rintro ⟨children, inside, rfl⟩
    exact .node inside

theorem derives_as {role : Role} :
    Derives rules held (.as role body) trees ↔
      ∃ children, Derives rules held body children
        ∧ trees = children.map (Tree.withRole role) := by
  constructor
  · intro derives
    cases derives with
    | as inside => exact ⟨_, inside, rfl⟩
  · rintro ⟨children, inside, rfl⟩
    exact .as inside

theorem derives_rule {name : Rule} :
    Derives rules held (.rule name) trees ↔ Derives rules [] (rules name) trees :=
  ⟨fun derives => by cases derives; assumption, .rule⟩

theorem derives_ahead : Derives rules held (.ahead body) trees ↔ trees = [] :=
  ⟨fun derives => by cases derives; rfl, fun same => same ▸ .ahead⟩

theorem derives_absent : Derives rules held (.absent body) trees ↔ trees = [] :=
  ⟨fun derives => by cases derives; rfl, fun same => same ▸ .absent⟩

theorem derives_joined : Derives rules held .joined trees ↔ trees = [] :=
  ⟨fun derives => by cases derives; rfl, fun same => same ▸ .joined⟩

theorem derives_three {third : Form}
    (derives : Derives rules held (.sequence [first, second, third]) trees) :
    ∃ ones twos threes, Derives rules held first ones ∧ Derives rules held second twos
      ∧ Derives rules held third threes ∧ trees = ones ++ (twos ++ threes) := by
  obtain ⟨ones, others, one, rest, rfl⟩ := derives_seq.1 derives
  obtain ⟨twos, threes, two, three, rfl⟩ := derives_seq.1 rest
  exact ⟨ones, twos, threes, one, two, three, rfl⟩

theorem derives_four {third fourth : Form}
    (derives : Derives rules held (.sequence [first, second, third, fourth]) trees) :
    ∃ ones twos threes fours, Derives rules held first ones ∧ Derives rules held second twos
      ∧ Derives rules held third threes ∧ Derives rules held fourth fours
      ∧ trees = ones ++ (twos ++ (threes ++ fours)) := by
  obtain ⟨ones, others, one, rest, rfl⟩ := derives_seq.1 derives
  obtain ⟨twos, threes, fours, two, three, four, rfl⟩ := derives_three rest
  exact ⟨ones, twos, threes, fours, one, two, three, four, rfl⟩

theorem derives_five {third fourth fifth : Form}
    (derives : Derives rules held (.sequence [first, second, third, fourth, fifth]) trees) :
    ∃ ones twos threes fours fives, Derives rules held first ones ∧ Derives rules held second twos
      ∧ Derives rules held third threes ∧ Derives rules held fourth fours
      ∧ Derives rules held fifth fives ∧ trees = ones ++ (twos ++ (threes ++ (fours ++ fives))) := by
  obtain ⟨ones, others, one, rest, rfl⟩ := derives_seq.1 derives
  obtain ⟨twos, threes, fours, fives, two, three, four, five, rfl⟩ := derives_four rest
  exact ⟨ones, twos, threes, fours, fives, one, two, three, four, five, rfl⟩

theorem derives_many (derives : Derives rules held (.many body) trees) :
    ∃ parts : List (List Tree), trees = parts.flatten
      ∧ ∀ part ∈ parts, Derives rules held body part := by
  generalize same : Gram.many body = g at derives
  induction derives with
  | none => exact ⟨[], rfl, by simp⟩
  | @more held _ part others once _ _ ih =>
      obtain rfl := Gram.many.inj same
      obtain ⟨parts, rfl, each⟩ := ih rfl
      exact ⟨part :: parts, rfl, by simpa using ⟨once, each⟩⟩
  | _ => simp at same

end Inversion

/-! How many trees an expression gives. -/

/-- A tree that is no punctuation and has a token. -/
structure Solid (tree : Tree) : Prop where
  named : tree.isNamed = true
  tokens : tree.tokens ≠ []

theorem Solid.withRole {tree : Tree} (solid : Solid tree) (role : Role) :
    Solid (tree.withRole role) := by
  cases tree <;> exact ⟨solid.named, solid.tokens⟩

namespace Gram

def isQuiet : Form → Bool
  | empty | ahead _ | absent _ | joined => true
  | seq first second => first.isQuiet && second.isQuiet
  | _ => false

/-- Whether an expression gives at least one token, where what is held for it has one. -/
def givesTokens (held : Bool) : Form → Bool
  | leaf _ _ | rule _ => true
  | seq first second => first.givesTokens held || second.givesTokens held
  | alt first second => first.givesTokens held && second.givesTokens held
  | node _ body | as _ body => body.givesTokens held
  | hold subject rest => rest.givesTokens (subject.givesTokens held)
  | .held => held
  | grow step => held && step.givesTokens true
  | empty | terminator | many _ | ahead _ | absent _ | joined => false

end Gram

def Rule.isSingle : Rule → Bool
  | statements _ => false
  | _ => true

namespace Gram

/-- Whether an expression gives one solid tree, where what is held for it is one. -/
def givesOne (held : Bool) : Form → Bool
  | leaf kind _ => kind != .mark
  | node kind body => kind != .mark && body.givesTokens held
  | as _ body => body.givesOne held
  | seq first second =>
      (first.isQuiet && second.givesOne held) || (first.givesOne held && second.isQuiet)
  | alt first second => first.givesOne held && second.givesOne held
  | rule name => name.isSingle
  | hold subject rest => rest.givesOne (subject.givesOne held)
  | .held => held
  | grow step => held && step.givesOne true
  | empty | terminator | many _ | ahead _ | absent _ | joined => false

end Gram

theorem rules_give_tokens (name : Rule) : (rules name).givesTokens false = true :=
  Rule.forall_of_list (p := fun name => (rules name).givesTokens false) (by decide +kernel) name

theorem single_rules_give_one (name : Rule) :
    (!name.isSingle || (rules name).givesOne false) = true :=
  Rule.forall_of_list (p := fun name => !name.isSingle || (rules name).givesOne false)
    (by decide +kernel) name

section Counting

variable {held trees : List Tree} {g : Form}

theorem Derives.quiet (derives : Derives rules held g trees) (quiet : g.isQuiet = true) :
    trees = [] := by
  induction derives with
  | empty | ahead | absent | joined => rfl
  | seq _ _ ih ih' =>
      simp only [Gram.isQuiet, Bool.and_eq_true] at quiet
      rw [ih quiet.1, ih' quiet.2, List.append_nil]
  | _ => simp [Gram.isQuiet] at quiet

theorem Derives.tokens {some : Bool} (derives : Derives rules held g trees)
    (gives : g.givesTokens some = true) (before : some = true → Tree.tokensOf held ≠ []) :
    Tree.tokensOf trees ≠ [] := by
  induction derives generalizing some with
  | leaf => simp
  | seq _ _ ih ih' =>
      simp only [Gram.givesTokens, Bool.or_eq_true] at gives
      rw [tokensOf_append]
      rcases gives with early | late
      · exact List.append_ne_nil_of_left_ne_nil (ih early before) _
      · exact List.append_ne_nil_of_right_ne_nil _ (ih' late before)
  | left _ ih => exact ih (by simp_all [Gram.givesTokens]) before
  | right _ ih => exact ih (by simp_all [Gram.givesTokens]) before
  | node _ ih => simpa using ih gives before
  | as _ ih =>
      rw [tokensOf_withRole]
      exact ih gives before
  | rule _ ih => exact ih (rules_give_tokens _) (by simp)
-- what is held for the rest is what the subject gives
  | hold _ _ ih ih' => exact ih' gives fun subject => ih subject before
  | held => exact before gives
  | grown => exact before (by simp_all [Gram.givesTokens])
  | grow _ _ ih ih' =>
      simp only [Gram.givesTokens, Bool.and_eq_true] at gives
      exact @ih' true (by simp [Gram.givesTokens, gives.2]) fun _ =>
        ih gives.2 fun _ => before gives.1
  | _ => simp [Gram.givesTokens] at gives

def IsOne (trees : List Tree) : Prop := ∃ tree, trees = [tree] ∧ Solid tree

theorem IsOne.tokens (one : IsOne trees) : Tree.tokensOf trees ≠ [] := by
  obtain ⟨tree, rfl, solid⟩ := one
  simpa using solid.tokens

theorem Derives.one {some : Bool} (derives : Derives rules held g trees)
    (gives : g.givesOne some = true) (before : some = true → IsOne held) : IsOne trees := by
  induction derives generalizing some with
  | leaf =>
      exact ⟨_, rfl, by simpa [Tree.isNamed, Tree.kind, Gram.givesOne] using gives, by simp⟩
  | @seq held first second left right beforeFirst afterFirst ih ih' =>
      simp only [Gram.givesOne, Bool.or_eq_true, Bool.and_eq_true] at gives
      rcases gives with ⟨quiet, one⟩ | ⟨one, quiet⟩
      · rw [beforeFirst.quiet quiet, List.nil_append]
        exact ih' one before
      · rw [afterFirst.quiet quiet, List.append_nil]
        exact ih one before
  | left _ ih => exact ih (by simp_all [Gram.givesOne]) before
  | right _ ih => exact ih (by simp_all [Gram.givesOne]) before
  | node inside _ =>
      simp only [Gram.givesOne, Bool.and_eq_true] at gives
      exact ⟨_, rfl, gives.1, by simpa using inside.tokens gives.2 fun some => (before some).tokens⟩
  | as _ ih =>
      obtain ⟨tree, rfl, solid⟩ := ih gives before
      exact ⟨_, rfl, solid.withRole _⟩
  | @rule held name trees _ ih =>
-- nothing is held for a rule, so it is checked by itself
      have checked := single_rules_give_one name
      rw [show name.isSingle = true from gives] at checked
      exact ih checked (by simp)
  | hold _ _ ih ih' => exact ih' gives fun subject => ih subject before
  | held => exact before gives
  | grown => exact before (by simp_all [Gram.givesOne])
  | grow _ _ ih ih' =>
      simp only [Gram.givesOne, Bool.and_eq_true] at gives
      exact @ih' true (by simp [Gram.givesOne, gives.2]) fun _ =>
        ih gives.2 fun _ => before gives.1
  | _ => simp [Gram.givesOne] at gives

end Counting

/-- At the top of a source stand declarations and statements, and what ends them. -/
theorem parse_top {text : String} {source : Source} (parsed : Source.parse? text = some source) :
    ∀ tree ∈ source.trees, Solid tree ∨ ∃ token, tree = .leaf .mark .plain token := by
  obtain ⟨parts, whole, each⟩ := derives_many (Source.parse_derives parsed)
  rw [whole]
  intro tree member
  obtain ⟨part, among, inside⟩ := List.mem_flatten.1 member
  obtain ⟨trees, ends, one, terminator, rfl⟩ := derives_seq.1 (each part among)
  rcases List.mem_append.1 inside with first | last
  · obtain ⟨only, rfl, solid⟩ := one.one (show Gram.givesOne false _ = true by decide +kernel) (by simp)
    obtain rfl : tree = only := by simpa using first
    exact .inl solid
  · cases terminator with
    | ended => simp at last
    | terminator => exact .inr ⟨_, by simpa using last⟩

end InterfaceMocks.Grammar
