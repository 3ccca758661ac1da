import InterfaceMocks.Proofs.Grammar.Depth

/-!
What the trees of a source look like. `Derives` says which trees an expression of the grammar can
give, whatever comes after them; it forgets which alternative is tried first and where a line may
end, so that it holds of every tree that is read, and of more. A fact about all trees of a source is
then shown for each kind of leaf and each kind of node that the grammar makes, which are finitely
many and can be listed.
-/

namespace InterfaceMocks.Grammar

open InterfaceMocks.Syntax
open InterfaceMocks.Text (Identifier.isIdentifier Identifier.opens Identifier.continues)

def Lexed (token : Token) : Prop :=
  token.lexeme = .word → Identifier.isIdentifier token.text = true

theorem Takes.admits {shape : Shape} {tokens rest : List Token} {token : Token}
    (takes : Takes shape tokens token rest) (lexed : ∀ other ∈ tokens, Lexed other) :
    shape.Admits token ∧ Lexed token ∧ ∀ other ∈ rest, Lexed other := by
  cases takes with
  | whole admits =>
      exact ⟨admits, lexed _ List.mem_cons_self,
        fun other member => lexed other (List.mem_cons_of_mem _ member)⟩
  | front =>
      refine ⟨⟨rfl, rfl⟩, by simp [Lexed], fun other member => ?_⟩
      rcases List.mem_cons.1 member with rfl | member
      · simp [Lexed]
      · exact lexed other (List.mem_cons_of_mem _ member)

section Derivation

variable {Rule : Type}

/-- The trees that an expression can give where the trees `held` are held for it. -/
inductive Derives (rules : Rule → Gram Rule) : List Tree → Gram Rule → List Tree → Prop where
  | empty {held} : Derives rules held .empty []
  | leaf {held kind shape token} (admits : shape.Admits token) (lexed : Lexed token) :
      Derives rules held (.leaf kind shape) [.leaf kind .plain token]
  -- the end of a line or of the source
  | ended {held} : Derives rules held .terminator []
  | terminator {held token} :
      Derives rules held .terminator [.leaf .mark .plain token]
  | seq {held first second trees more} (before : Derives rules held first trees)
      (after : Derives rules held second more) :
      Derives rules held (.seq first second) (trees ++ more)
  | left {held first second trees} (chosen : Derives rules held first trees) :
      Derives rules held (.alt first second) trees
  | right {held first second trees} (chosen : Derives rules held second trees) :
      Derives rules held (.alt first second) trees
  | none {held body} : Derives rules held (.many body) []
  | more {held body trees more} (once : Derives rules held body trees)
      (again : Derives rules held (.many body) more) :
      Derives rules held (.many body) (trees ++ more)
  | node {held kind body trees} (inside : Derives rules held body trees) :
      Derives rules held (.node kind body) [.node kind .plain trees]
  | as {held role body trees} (inside : Derives rules held body trees) :
      Derives rules held (.as role body) (trees.map (Tree.withRole role))
  | rule {held name trees} (inside : Derives rules [] (rules name) trees) :
      Derives rules held (.rule name) trees
  | hold {held subject rest trees more} (before : Derives rules held subject trees)
      (after : Derives rules trees rest more) : Derives rules held (.hold subject rest) more
  | held {held} : Derives rules held .held held
  | grown {held step} : Derives rules held (.grow step) held
  | grow {held step trees more} (once : Derives rules held step trees)
      (again : Derives rules trees (.grow step) more) : Derives rules held (.grow step) more
  | ahead {held body} : Derives rules held (.ahead body) []
  | absent {held body} : Derives rules held (.absent body) []
  | joined {held} : Derives rules held .joined []

/-- What is read can be derived, and what is left is still made of tokens. -/
theorem Reads.derives {rules : Rule → Gram Rule} {g : Gram Rule} {setting : Setting}
    {cursor rest : Cursor} {trees : List Tree} (reads : Reads rules g setting cursor trees rest)
    (lexed : ∀ token ∈ cursor.tokens, Lexed token) :
    Derives rules setting.held g trees ∧ ∀ token ∈ rest.tokens, Lexed token := by
  induction reads with
  | empty => exact ⟨.empty, lexed⟩
  | leaf _ taken =>
      obtain ⟨admits, here, later⟩ := (takes_of_take taken).admits lexed
      exact ⟨.leaf admits here, later⟩
  | ended => exact ⟨.ended, lexed⟩
  | terminator _ next _ =>
      rw [next] at lexed
      exact ⟨.terminator, fun other member => lexed other (List.mem_cons_of_mem _ member)⟩
  | seq _ _ early late =>
      obtain ⟨before, middle⟩ := early lexed
      exact ⟨.seq before (late middle).1, (late middle).2⟩
  | left _ chosen => exact ⟨.left (chosen lexed).1, (chosen lexed).2⟩
  | right _ _ chosen => exact ⟨.right (chosen lexed).1, (chosen lexed).2⟩
  | stop => exact ⟨.none, lexed⟩
  | more _ _ once again =>
      obtain ⟨before, middle⟩ := once lexed
      exact ⟨.more before (again middle).1, (again middle).2⟩
  | node _ inside => exact ⟨.node (inside lexed).1, (inside lexed).2⟩
  | as _ inside => exact ⟨.as (inside lexed).1, (inside lexed).2⟩
  | rule _ inside => exact ⟨.rule (inside lexed).1, (inside lexed).2⟩
  | hold _ _ early late =>
      obtain ⟨before, middle⟩ := early lexed
      exact ⟨.hold before (late middle).1, (late middle).2⟩
  | held => exact ⟨.held, lexed⟩
  | grown => exact ⟨.grown, lexed⟩
  | grow _ _ once again =>
      obtain ⟨before, middle⟩ := once lexed
      exact ⟨.grow before (again middle).1, (again middle).2⟩
  | ahead => exact ⟨.ahead, lexed⟩
  | absent => exact ⟨.absent, lexed⟩
  | joined => exact ⟨.joined, lexed⟩

namespace Gram

def leaves : Gram Rule → List (Kind × Shape)
  | leaf kind shape => [(kind, shape)]
  | seq first second | alt first second | hold first second => first.leaves ++ second.leaves
  | many body | node _ body | as _ body | grow body => body.leaves
  | empty | terminator | rule _ | held | ahead _ | absent _ | joined => []

def nodes : Gram Rule → List (Kind × Gram Rule)
  | node kind body => (kind, body) :: body.nodes
  | seq first second | alt first second | hold first second => first.nodes ++ second.nodes
  | many body | as _ body | grow body => body.nodes
  | empty | leaf _ _ | terminator | rule _ | held | ahead _ | absent _ | joined => []

/-- A property is kept by what an expression makes itself: its leaves have it, and so have its nodes
if their children do. -/
structure Keeps (rules : Rule → Gram Rule) (holds : Tree → Prop) (g : Gram Rule) : Prop where
  leaf : ∀ entry ∈ g.leaves, ∀ role token, entry.2.Admits token → Lexed token →
    holds (.leaf entry.1 role token)
  node : ∀ entry ∈ g.nodes, ∀ role held trees, Derives rules held entry.2 trees →
    (∀ tree ∈ trees, holds tree) → holds (.node entry.1 role trees)

namespace Keeps

variable {rules : Rule → Gram Rule} {holds : Tree → Prop} {g g' : Gram Rule}

theorem mono (keeps : g.Keeps rules holds) (leaves : g'.leaves ⊆ g.leaves)
    (nodes : g'.nodes ⊆ g.nodes) : g'.Keeps rules holds where
  leaf entry member := keeps.leaf entry (leaves member)
  node entry member := keeps.node entry (nodes member)

theorem join (left : g.Keeps rules holds) (right : g'.Keeps rules holds) :
    (seq g g').Keeps rules holds where
  leaf entry member := (List.mem_append.1 member).elim (left.leaf entry) (right.leaf entry)
  node entry member := (List.mem_append.1 member).elim (left.node entry) (right.node entry)

end Keeps

end Gram

/-- A property that is kept by all rules and by an expression holds of all trees that it derives,
if it holds of the trees held, of terminators and whatever the role. -/
theorem Derives.forall {rules : Rule → Gram Rule} {holds : Tree → Prop}
    (each : ∀ name, (rules name).Keeps rules holds)
    (marks : ∀ token, holds (.leaf .mark .plain token))
    (roles : ∀ role tree, holds tree → holds (tree.withRole role))
    {held : List Tree} {g : Gram Rule} {trees : List Tree} (derives : Derives rules held g trees)
    (keeps : g.Keeps rules holds) (before : ∀ tree ∈ held, holds tree) :
    ∀ tree ∈ trees, holds tree := by
  induction derives with
  | empty | ended | none | ahead | absent | joined => simp
  | @leaf held kind shape token admits lexed =>
      simpa using keeps.leaf (kind, shape) (by simp [Gram.leaves]) .plain token admits lexed
  | terminator => simpa using marks _
  | seq first second ih ih' =>
      intro tree member
      rcases List.mem_append.1 member with early | late
      · exact ih (keeps.mono (by simp [Gram.leaves]) (by simp [Gram.nodes])) before tree early
      · exact ih' (keeps.mono (by simp [Gram.leaves]) (by simp [Gram.nodes])) before tree late
  | left _ ih | right _ ih =>
      exact ih (keeps.mono (by simp [Gram.leaves]) (by simp [Gram.nodes])) before
  | more _ _ ih ih' =>
      intro tree member
      rcases List.mem_append.1 member with early | late
      · exact ih (keeps.mono (by simp [Gram.leaves]) (by simp [Gram.nodes])) before tree early
      · exact ih' keeps before tree late
  | @node held kind body trees inside ih =>
      have children := ih (keeps.mono (by simp [Gram.leaves]) (by simp [Gram.nodes])) before
      simpa using keeps.node (kind, body) (by simp [Gram.nodes]) .plain held trees inside children
  | as inside ih =>
      intro tree member
      obtain ⟨original, found, rfl⟩ := List.mem_map.1 member
      exact roles _ _
        (ih (keeps.mono (by simp [Gram.leaves]) (by simp [Gram.nodes])) before original found)
  | rule inside ih => exact ih (each _) (by simp)
  | hold _ _ ih ih' =>
      refine ih' (keeps.mono (by simp [Gram.leaves]) (by simp [Gram.nodes])) ?_
      exact ih (keeps.mono (by simp [Gram.leaves]) (by simp [Gram.nodes])) before
  | held | grown => exact before
  | grow _ _ ih ih' =>
      exact ih' keeps (ih (keeps.mono (by simp [Gram.leaves]) (by simp [Gram.nodes])) before)

end Derivation

section Lexing

open Lexer

theorem take_run (p : Char → Bool) (cs : List Char) : cs.take (run p cs) = cs.takeWhile p := by
  induction cs with
  | nil => rfl
  | cons c rest ih =>
      by_cases holds : p c = true
      · simpa [run, holds] using ih
      · simp [run, holds]

theorem cuts_word {c : Char} {rest : List Char} {sort : PieceClass} {n : Nat}
    (cuts : Cuts c rest sort n) :
    sort = .lexeme .word → Identifier.isIdentifier (String.ofList (c :: rest.take n)) = true := by
  cases cuts with
  | word _ opens => simp [Identifier.isIdentifier, opens, take_run]
  | number _ _ _ numeric _ =>
      intro same
      obtain rfl := PieceClass.lexeme.inj same
      simp [IsNumeric] at numeric
  | _ => simp

theorem tokenize_lexed {text : String} {tokens : List Token} {trailing : List Gap}
    (lexed : tokenize text = some (tokens, trailing)) : ∀ token ∈ tokens, Lexed token := by
  intro token member isWord
  have word := ((tokenize_forall (fun sort text => sort = .lexeme .word →
    Identifier.isIdentifier (String.ofList text) = true) cuts_word lexed).1 token member).1
  simpa using word (congrArg _ isWord)

end Lexing

namespace Source

theorem parse_derives {text : String} {source : Source} (parsed : parse? text = some source) :
    Derives rules [] Statements.source source.trees := by
  obtain ⟨tokens, rest, lexed, found, -⟩ := parse_eq_some_iff.1 parsed
  exact ((reads_iff.2 found).derives (tokenize_lexed lexed)).1

/-- A property that the grammar keeps holds of all that stands directly below the root. -/
theorem parse_forall {text : String} {source : Source} (parsed : parse? text = some source)
    {holds : Tree → Prop} (each : ∀ name, (rules name).Keeps rules holds)
    (top : Statements.source.Keeps rules holds) (marks : ∀ token, holds (.leaf .mark .plain token))
    (roles : ∀ role tree, holds tree → holds (tree.withRole role)) :
    ∀ tree ∈ source.trees, holds tree :=
  (parse_derives parsed).forall each marks roles top (by simp)

end Source

end InterfaceMocks.Grammar
