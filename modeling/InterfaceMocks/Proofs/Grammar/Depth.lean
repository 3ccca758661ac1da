import InterfaceMocks.Grammar.Source
import InterfaceMocks.Proofs.Grammar.Cutting
import InterfaceMocks.Proofs.Grammar.Reads

/-!
The bound on depth that a source is read with is enough, whatever the source. Two things make it so.
Every expression that is repeated reads something, and between two tokens the grammar descends
through a bounded number of expressions: `height` bounds this number for an expression, given a
`rank` that bounds it for each rule. An operator that is read in parts counts once for each of its
characters, of which there are at most three.
-/

namespace InterfaceMocks.Grammar

open InterfaceMocks.Syntax

/-- How often something can be read from a token. -/
def weight (token : Token) : Nat :=
  if token.lexeme = .mark then max 1 token.text.length else 1

def weightOf : List Token → Nat
  | [] => 0
  | token :: rest => weight token + weightOf rest

/-- A part of an operator that is read on its own is not empty. -/
def Shape.proper : Shape → Bool
  | opening text => 0 < text.length
  | _ => true

theorem Takes.lighter {shape : Shape} {tokens rest : List Token} {token : Token}
    (takes : Takes shape tokens token rest) (proper : shape.proper = true) :
    weightOf rest < weightOf tokens := by
  cases takes with
  | whole admits =>
      have positive : 0 < weight token := by unfold weight; split <;> omega
      simpa [weightOf] using positive
  | @front text whole left _ isMark split some =>
      have size : text.length + left.length = whole.text.length := by
        rw [← String.length_toList, ← String.length_toList, ← split, List.length_append]
      have left_pos := List.length_pos_iff.2 some
      have text_pos : 0 < text.length := by simpa [Shape.proper] using proper
      simp only [weightOf, weight, isMark, if_true, String.length_ofList]
      omega

namespace Gram

variable {Rule : Type}

/-- Whether something is read whenever the expression succeeds. Rules always read something. -/
def consumes : Gram Rule → Bool
  | empty => false
  | leaf _ _ => true
  | terminator => false
  | seq first second => first.consumes || second.consumes
  | alt first second => first.consumes && second.consumes
  | many _ => false
  | node _ body => body.consumes
  | as _ body => body.consumes
  | rule _ => true
  | hold subject rest => subject.consumes || rest.consumes
  | held => false
  | grow _ => false
  | ahead _ => false
  | absent _ => false
  | joined => false

def height (rank : Rule → Nat) : Gram Rule → Nat
  | empty | leaf _ _ | terminator | held | joined => 1
  | seq first second | hold first second =>
      max (first.height rank) (if first.consumes then 0 else second.height rank) + 1
  | alt first second => max (first.height rank) (second.height rank) + 1
  | many body | node _ body | as _ body | grow body | ahead body | absent body =>
      body.height rank + 1
  | rule name => rank name + 1

/-- Whether all that is repeated reads something, and no part is higher than `bound`. -/
def fits (rank : Rule → Nat) (bound : Nat) : Gram Rule → Bool
  | empty | terminator | held | joined | rule _ => true
  | leaf _ shape => shape.proper
  | seq first second | hold first second | alt first second =>
      first.fits rank bound && second.fits rank bound && second.height rank ≤ bound
  | many body | grow body => body.fits rank bound && body.consumes && body.height rank < bound
  | node _ body | as _ body | ahead body | absent body => body.fits rank bound

theorem height_pos (rank : Rule → Nat) (g : Gram Rule) : 0 < g.height rank := by
  cases g <;> simp [height]

end Gram

section Consumption

variable {Rule : Type} {rules : Rule → Gram Rule} {rank : Rule → Nat} {bound : Nat}

structure Ranked (rules : Rule → Gram Rule) (rank : Rule → Nat) (bound : Nat) : Prop where
  consumes : ∀ name, (rules name).consumes = true
  fits : ∀ name, (rules name).fits rank bound = true
  height : ∀ name, (rules name).height rank ≤ rank name

/-- What is left weighs no more than what there was, and less where something was consumed. -/
def Lighter (consumed : Bool) (before rest : List Token) : Prop :=
  weightOf rest ≤ weightOf before ∧ (consumed = true → weightOf rest < weightOf before)

namespace Lighter

variable {consumed : Bool} {before middle rest : List Token}

theorem refl (tokens : List Token) : Lighter false tokens tokens := ⟨le_rfl, by simp⟩

theorem trans {more : Bool} (first : Lighter consumed before middle)
    (second : Lighter more middle rest) : Lighter (consumed || more) before rest := by
  refine ⟨second.1.trans first.1, fun either => ?_⟩
  rcases Bool.or_eq_true_iff.1 either with early | late
  · exact second.1.trans_lt (first.2 early)
  · exact (second.2 late).trans_le first.1

theorem weaken {less : Bool} (lighter : Lighter consumed before rest)
    (implies : less = true → consumed = true) : Lighter less before rest :=
  ⟨lighter.1, fun needed => lighter.2 (implies needed)⟩

end Lighter

theorem Reads.lighter (ranked : Ranked rules rank bound) {g : Gram Rule} {setting : Setting}
    {cursor rest : Cursor} {trees : List Tree} (reads : Reads rules g setting cursor trees rest)
    (fits : g.fits rank bound = true) : Lighter g.consumes cursor.tokens rest.tokens := by
  induction reads with
  | empty | ended | stop | held | grown | ahead | absent | joined => exact .refl _
  | leaf _ taken =>
      have lighter := (takes_of_take taken).lighter fits
      exact ⟨lighter.le, fun _ => lighter⟩
  | terminator _ next _ => simp [Lighter, Gram.consumes, Cursor.after, next, weightOf]
  | seq _ _ early late | hold _ _ early late =>
      simp only [Gram.fits, Bool.and_eq_true] at fits
      exact (early fits.1.1).trans (late fits.1.2)
  | left _ chosen =>
      simp only [Gram.fits, Bool.and_eq_true] at fits
      exact (chosen fits.1.1).weaken fun both => (Bool.and_eq_true_iff.1 both).1
  | right _ _ chosen =>
      simp only [Gram.fits, Bool.and_eq_true] at fits
      exact (chosen fits.1.2).weaken fun both => (Bool.and_eq_true_iff.1 both).2
  | more _ _ once again | grow _ _ once again =>
      have whole := fits
      simp only [Gram.fits, Bool.and_eq_true] at fits
      exact ((once fits.1.1).trans (again whole)).weaken (by simp [Gram.consumes])
  | node _ inside | as _ inside => exact inside fits
  | rule _ inside => exact (inside (ranked.fits _)).weaken fun _ => ranked.consumes _

/-- What is left to read after an expression asks for no more depth than what there was, less the
expression's own. -/
theorem rest_shallow {consumed : Bool} {tokens rest : List Token} {height depth : Nat}
    (lighter : Lighter consumed tokens rest) (low : height ≤ bound)
    (enough : (if consumed then 0 else height) + bound * weightOf tokens ≤ depth) :
    height + bound * weightOf rest ≤ depth := by
  obtain ⟨less, much⟩ := lighter
  cases consumed with
  | true =>
      have next : bound * (weightOf rest + 1) ≤ bound * weightOf tokens :=
        Nat.mul_le_mul_left bound (much rfl)
      rw [Nat.mul_add] at next
      simp only [if_true] at enough
      omega
  | false =>
      have next : bound * weightOf rest ≤ bound * weightOf tokens := Nat.mul_le_mul_left bound less
      simp only [Bool.false_eq_true, if_false] at enough
      omega

/-! What is put together from answers that were not cut off is not cut off either. -/

namespace Reply

theorem branch_given {reply : Reply} {found : List Tree → Cursor → Reply} {missing : Reply}
    (first : reply ≠ .exhausted)
    (second : ∀ trees rest, reply = .done trees rest → found trees rest ≠ .exhausted)
    (third : missing ≠ .exhausted) : reply.branch found missing ≠ .exhausted := by
  cases reply with
  | done trees rest => exact second trees rest rfl
  | mismatch => exact third
  | exhausted => exact absurd rfl first

theorem andThen_given {reply : Reply} {next : List Tree → Cursor → Reply}
    (first : reply ≠ .exhausted)
    (second : ∀ trees rest, reply = .done trees rest → next trees rest ≠ .exhausted) :
    reply.andThen next ≠ .exhausted := by
  rw [andThen_eq_branch]
  exact branch_given first second (by simp)

theorem orElse_given {reply : Reply} {other : Unit → Reply} (first : reply ≠ .exhausted)
    (second : ∀ u, other u ≠ .exhausted) : reply.orElse other ≠ .exhausted := by
  rw [orElse_eq_branch]
  exact branch_given first (by simp) (second ())

theorem after_given {reply : Reply} (trees : List Tree) (given : reply ≠ .exhausted) :
    reply.after trees ≠ .exhausted := by
  rw [after_eq_branch]
  exact branch_given given (by simp) (by simp)

theorem map_given {reply : Reply} (f : List Tree → List Tree) (given : reply ≠ .exhausted) :
    reply.map f ≠ .exhausted := by
  rw [map_eq_branch]
  exact branch_given given (by simp) (by simp)

end Reply

theorem leaf_given (kind : Kind) (shape : Shape) (follows : Bool) (cursor : Cursor) :
    cursor.leaf kind shape follows ≠ .exhausted := by
  unfold Cursor.leaf
  split
  · simp
  · split <;> simp

theorem terminator_given (follows : Bool) (cursor : Cursor) :
    cursor.terminator follows ≠ .exhausted := by
  unfold Cursor.terminator
  split
  · simp
  · split
    · simp
    · split <;> simp

/-- An expression is never cut off by a bound that allows for its height and for each token. -/
theorem read_given (ranked : Ranked rules rank bound) (depth : Nat) (g : Gram Rule)
    (setting : Setting) (cursor : Cursor) (fits : g.fits rank bound = true)
    (enough : g.height rank + bound * weightOf cursor.tokens ≤ depth) :
    read rules depth g setting cursor ≠ .exhausted := by
  induction depth generalizing g setting cursor with
  | zero =>
      have := g.height_pos rank
      omega
  | succ depth ih =>
      cases g with
      | empty => simp [read]
      | held => simp [read]
      | joined => simp only [read]; split <;> simp
      | leaf kind shape => exact leaf_given _ _ _ _
      | terminator => exact terminator_given _ _
      | seq first second =>
          simp only [Gram.fits, Bool.and_eq_true, decide_eq_true_eq] at fits
          simp only [Gram.height] at enough
          refine Reply.andThen_given (ih first _ cursor fits.1.1 (by omega))
            fun trees rest found => ?_
          refine Reply.after_given trees (ih second setting rest fits.1.2 ?_)
          exact rest_shallow ((reads_of_read found).lighter ranked fits.1.1) fits.2 (by omega)
      | hold subject rest =>
          simp only [Gram.fits, Bool.and_eq_true, decide_eq_true_eq] at fits
          simp only [Gram.height] at enough
          refine Reply.andThen_given (ih subject _ cursor fits.1.1 (by omega))
            fun trees next found => ?_
          refine ih rest _ next fits.1.2 ?_
          exact rest_shallow ((reads_of_read found).lighter ranked fits.1.1) fits.2 (by omega)
      | alt first second =>
          simp only [Gram.fits, Bool.and_eq_true] at fits
          simp only [Gram.height] at enough
          exact Reply.orElse_given (ih first setting cursor fits.1.1 (by omega)) fun _ =>
            ih second setting cursor fits.1.2 (by omega)
      -- what is repeated has read something, so it is read again with less left
      | many body =>
          have whole := fits
          simp only [Gram.fits, Bool.and_eq_true, decide_eq_true_eq] at fits
          simp only [Gram.height] at enough
          rw [read_many]
          refine Reply.branch_given (ih body _ cursor fits.1.1 (by omega))
            (fun trees rest found => ?_) (by simp)
          refine Reply.after_given trees (ih (.many body) setting rest whole ?_)
          exact rest_shallow ((reads_of_read found).lighter ranked fits.1.1) fits.2
            (by simp only [fits.1.2, if_true]; omega)
      | grow step =>
          have whole := fits
          simp only [Gram.fits, Bool.and_eq_true, decide_eq_true_eq] at fits
          simp only [Gram.height] at enough
          rw [read_grow]
          refine Reply.branch_given (ih step _ cursor fits.1.1 (by omega))
            (fun trees rest found => ?_) (by simp)
          refine ih (.grow step) _ rest whole ?_
          exact rest_shallow ((reads_of_read found).lighter ranked fits.1.1) fits.2
            (by simp only [fits.1.2, if_true]; omega)
      | node kind body =>
          simp only [Gram.height] at enough
          exact Reply.map_given _ (ih body setting cursor fits (by omega))
      | as role body =>
          simp only [Gram.height] at enough
          exact Reply.map_given _ (ih body setting cursor fits (by omega))
      | rule name =>
          simp only [Gram.height] at enough
          have low := ranked.height name
          exact ih (rules name) _ cursor (ranked.fits name) (by omega)
      | ahead body =>
          simp only [Gram.height] at enough
          rw [read_ahead]
          exact Reply.branch_given (ih body setting cursor fits (by omega))
            (fun _ _ _ => by simp) (by simp)
      | absent body =>
          simp only [Gram.height] at enough
          rw [read_absent]
          exact Reply.branch_given (ih body setting cursor fits (by omega))
            (fun _ _ _ => by simp) (by simp)

end Consumption

/-! The ranks of the rules, and what follows for a whole source. -/

def Rule.rank : Rule → Nat
  | .type => 15
  | .simpleType => 13
  | .typeElement => 18
  | .typeOperand => 13
  | .markedCore => 12
  | .genericCore => 9
  | .field => 14
  | .interfaceElement => 20
  | .literalElement => 38
  | .operation .disjunction _ => 35
  | .operation .conjunction _ => 33
  | .operation .comparison _ => 31
  | .operation .sum _ => 29
  | .operation .product _ => 27
  | .unary _ => 25
  | .primary _ => 23
  | .operand _ => 21
  | .statement _ => 54
  | .statements _ => 57
  | .importSpec => 7
  | .typeSpec _ | .constSpec | .varSpec | .declaration => 5
  | .emptyLabel _ => 4
  | .typeArguments | .typeOperandArguments | .parameters | .arguments | .literalValue
  | .ifStatement | .block => 3

/-! All rules, so that what can be computed of each can be computed of all. -/

def Level.list : List Level := [.disjunction, .conjunction, .comparison, .sum, .product]

def Mode.list : List Mode :=
  [Braces.anyName, .longName, .header].flatMap fun braces =>
    [false, true].flatMap fun guards => [false, true].map fun edge => ⟨braces, guards, edge⟩

def Place.list : List Place := [.top, .block, .clause]

def Rule.list : List Rule :=
  ([.type, .simpleType, .typeElement, .typeArguments, .typeOperand, .typeOperandArguments,
    .markedCore, .genericCore, .parameters, .field, .interfaceElement, .arguments, .literalValue,
    .literalElement, .ifStatement, .block, .typeSpec false, .typeSpec true, .constSpec, .varSpec,
    .importSpec, .declaration] : List Rule)
    ++ Mode.list.map Rule.unary ++ Mode.list.map Rule.primary ++ Mode.list.map Rule.operand
    ++ Place.list.map Rule.statement ++ Place.list.map Rule.statements
    ++ Place.list.map Rule.emptyLabel
    ++ Level.list.flatMap fun level => Mode.list.map (Rule.operation level)

theorem Mode.mem_list (mode : Mode) : mode ∈ Mode.list := by
  obtain ⟨braces, guards, edge⟩ := mode
  cases braces <;> cases guards <;> cases edge <;> decide

theorem Place.mem_list (place : Place) : place ∈ Place.list := by cases place <;> decide

theorem Level.mem_list (level : Level) : level ∈ Level.list := by cases level <;> decide

theorem Rule.mem_list (name : Rule) : name ∈ Rule.list := by
  cases name with
  | typeSpec grouped => cases grouped <;> simp [Rule.list]
  | _ => simp [Rule.list, Mode.mem_list, Place.mem_list, Level.mem_list]

theorem Rule.forall_of_list {p : Rule → Bool} (checked : Rule.list.all p = true) (name : Rule) :
    p name = true := List.all_eq_true.1 checked name (Rule.mem_list name)

def Rule.isRanked (name : Rule) : Bool :=
  (rules name).consumes && (rules name).fits Rule.rank 62
    && (rules name).height Rule.rank ≤ name.rank

theorem rule_isRanked (name : Rule) : name.isRanked = true :=
  Rule.forall_of_list (by decide +kernel) name

theorem rules_ranked : Ranked rules Rule.rank 62 where
  consumes name := by
    have ranked := rule_isRanked name
    simp only [Rule.isRanked, Bool.and_eq_true] at ranked
    exact ranked.1.1
  fits name := by
    have ranked := rule_isRanked name
    simp only [Rule.isRanked, Bool.and_eq_true] at ranked
    exact ranked.1.2
  height name := by
    have ranked := rule_isRanked name
    simp only [Rule.isRanked, Bool.and_eq_true, decide_eq_true_eq] at ranked
    exact ranked.2

section Lexed

open Lexer

theorem markExtent_short {cs : List Char} {sort : PieceClass} {n : Nat}
    (found : markExtent cs = some (sort, n)) : n + 1 ≤ 3 := by
  obtain ⟨mark, listed, same⟩ := Option.map_eq_some_iff.1 found
  have short : ∀ mark ∈ marks, mark.length ≤ 3 := by decide +kernel
  have here := short mark (List.mem_of_find?_eq_some listed)
  simp only [Prod.mk.injEq] at same
  omega

/-- The text of a mark is as short as the longest one of the list. -/
theorem cuts_short {c : Char} {rest : List Char} {sort : PieceClass} {n : Nat}
    (cuts : Cuts c rest sort n) : sort = .lexeme .mark → (c :: rest.take n).length ≤ 3 := by
  cases cuts with
  | mark _ _ _ found =>
      intro _
      have short := markExtent_short found
      simp only [List.length_cons, List.length_take]
      omega
  | number _ _ _ numeric _ =>
      intro same
      obtain rfl := PieceClass.lexeme.inj same
      simp [IsNumeric] at numeric
  | _ => simp

theorem tokenize_light {text : String} {tokens : List Token} {trailing : List Gap}
    (lexed : tokenize text = some (tokens, trailing)) : weightOf tokens ≤ 3 * tokens.length := by
  have each : ∀ token ∈ tokens, weight token ≤ 3 := by
    intro token member
    have short := ((tokenize_forall (fun sort text => sort = .lexeme .mark → text.length ≤ 3)
      cuts_short lexed).1 token member).1
    unfold weight
    split
    · rename_i isMark
      have := short (by rw [isMark])
      rw [String.length_toList] at this
      omega
    · omega
  clear lexed
  induction tokens with
  | nil => simp [weightOf]
  | cons token rest ih =>
      have later := ih fun other member => each other (List.mem_cons_of_mem _ member)
      have here := each token List.mem_cons_self
      simp only [weightOf, List.length_cons]
      omega

end Lexed

theorem source_fits : Statements.source.fits Rule.rank 62 = true := by decide +kernel

theorem source_height : Statements.source.height Rule.rank ≤ 400 := by decide +kernel

namespace Source

/-- The bound that sources are read with never cuts reading off. -/
theorem read_source_given {text : String} {tokens : List Token} {trailing : List Gap}
    (lexed : tokenize text = some (tokens, trailing)) :
    read rules (depthFor tokens.length) Statements.source ⟨false, false, []⟩ ⟨tokens, false⟩
      ≠ .exhausted := by
  apply read_given rules_ranked _ _ _ _ source_fits
  have light := tokenize_light lexed
  have low := source_height
  simp only [depthFor]
  omega

/-- A text has a tree when it has tokens and these are read to their end. -/
theorem parse_eq_some_iff {text : String} {source : Source} :
    parse? text = some source ↔
      ∃ tokens rest, tokenize text = some (tokens, source.trailing)
        ∧ reading rules Statements.source ⟨false, false, []⟩ ⟨tokens, false⟩
            = .done source.trees rest
        ∧ rest.tokens = [] := by
  unfold parse?
  cases lexed : tokenize text with
  | none => simp
  | some pair =>
      obtain ⟨tokens, trailing⟩ := pair
      have given := reading_eq_read rules (read_source_given lexed)
      obtain ⟨trees', trailing'⟩ := source
      cases found : read rules (depthFor tokens.length) Statements.source ⟨false, false, []⟩
          ⟨tokens, false⟩ with
      | done trees rest =>
          rw [found] at given
          simp only [found, Option.ite_none_right_eq_some, List.isEmpty_iff, Option.some.injEq,
            Source.mk.injEq, Prod.mk.injEq]
          constructor
          · rintro ⟨ended, rfl, rfl⟩
            exact ⟨tokens, rest, ⟨rfl, rfl⟩, given, ended⟩
          · rintro ⟨_, rest', ⟨rfl, rfl⟩, same, ended⟩
            obtain ⟨rfl, rfl⟩ := Reply.done.inj (given.symm.trans same)
            exact ⟨ended, rfl, rfl⟩
      | mismatch =>
          rw [found] at given
          constructor
          · intro impossible
            simp [found] at impossible
          · rintro ⟨_, rest', pair, same, -⟩
            simp only [Option.some.injEq, Prod.mk.injEq] at pair
            rw [← pair.1, given] at same
            simp at same
      | exhausted => exact absurd found (read_source_given lexed)

end Source

end InterfaceMocks.Grammar
