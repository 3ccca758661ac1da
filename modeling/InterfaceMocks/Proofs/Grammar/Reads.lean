import InterfaceMocks.Proofs.Grammar.Unbounded

/-!
What is read, as a relation. `Reads` has a case for each way in which an expression of the grammar can
succeed, and remembers that the alternatives before the one taken did not match. It says of a reading
neither more nor less than the reader does, so that what holds of all that is read is shown by
induction on it, with one case for each way to succeed and none for the failures.
-/

namespace InterfaceMocks.Grammar

open InterfaceMocks.Syntax

namespace Reply

variable {reply : Reply} {trees : List Tree} {rest : Cursor}

theorem branch_eq_done {found : List Tree → Cursor → Reply} {missing : Reply} :
    reply.branch found missing = .done trees rest ↔
      (∃ before middle, reply = .done before middle ∧ found before middle = .done trees rest)
        ∨ reply = .mismatch ∧ missing = .done trees rest := by
  cases reply <;> simp [branch]

theorem andThen_eq_done {next : List Tree → Cursor → Reply} :
    reply.andThen next = .done trees rest ↔
      ∃ before middle, reply = .done before middle ∧ next before middle = .done trees rest := by
  rw [andThen_eq_branch, branch_eq_done]
  simp

theorem orElse_eq_done {other : Unit → Reply} :
    reply.orElse other = .done trees rest ↔
      reply = .done trees rest ∨ reply = .mismatch ∧ other () = .done trees rest := by
  rw [orElse_eq_branch, branch_eq_done]
  simp

theorem after_eq_done {before : List Tree} :
    reply.after before = .done trees rest ↔
      ∃ more, reply = .done more rest ∧ trees = before ++ more := by
  rw [after_eq_branch, branch_eq_done]
  simp [eq_comm, and_comm]

theorem map_eq_done {f : List Tree → List Tree} :
    reply.map f = .done trees rest ↔ ∃ inner, reply = .done inner rest ∧ trees = f inner := by
  rw [map_eq_branch, branch_eq_done]
  simp [eq_comm, and_comm]

end Reply

/-! What is taken of the tokens. -/

def Shape.Admits : Shape → Token → Prop
  | mark text, token | sameLine text, token | opening text, token =>
      token.lexeme = .mark ∧ token.text = text
  | keyword text, token => token.lexeme = .word ∧ token.text = text
  | oneOf words, token => token.lexeme = .word ∧ token.text ∈ words
  | name reserved, token => token.lexeme = .word ∧ token.text ∉ reserved
  | literal lexeme, token => token.lexeme = lexeme

/-- The first token is taken whole or, where a mark is read in parts, the front of it. -/
inductive Takes : Shape → List Token → Token → List Token → Prop where
  | whole {shape token rest} (admits : shape.Admits token) : Takes shape (token :: rest) token rest
  | front {text token left rest} (isMark : token.lexeme = .mark)
      (split : text.toList ++ left = token.text.toList) (some : left ≠ []) :
      Takes (.opening text) (token :: rest) ⟨token.lead, .mark, text⟩
        (⟨[], .mark, String.ofList left⟩ :: rest)

theorem takes_of_take {shape : Shape} {tokens rest : List Token} {token : Token}
    (taken : shape.take? tokens = some (token, rest)) : Takes shape tokens token rest := by
  cases tokens with
  | nil => simp [Shape.take?] at taken
  | cons first others =>
      cases shape with
      | opening text =>
          simp only [Shape.take?] at taken
          split at taken
          · rename_i begins
            split at taken
            · rename_i same
              obtain ⟨rfl, rfl⟩ := Prod.mk.inj (Option.some.inj taken)
              exact .whole ⟨begins.1, same⟩
            · rename_i longer
              obtain ⟨rfl, rfl⟩ := Prod.mk.inj (Option.some.inj taken)
              obtain ⟨left, split⟩ := List.isPrefixOf_iff_prefix.1 begins.2
              have some : left ≠ [] := by
                rintro rfl
                exact longer (String.toList_injective (by simpa using split.symm))
              have drop : first.text.toList.drop text.length = left := by
                rw [← split, ← String.length_toList, List.drop_left]
              rw [drop]
              exact .front begins.1 split some
          · simp at taken
      | sameLine text =>
          simp only [Shape.take?, Option.ite_none_right_eq_some, Option.some.injEq,
            Prod.mk.injEq] at taken
          obtain ⟨⟨isMark, same, -⟩, rfl, rfl⟩ := taken
          exact .whole ⟨isMark, same⟩
      | mark text | keyword text | oneOf words | name reserved | literal lexeme =>
          simp only [Shape.take?, Option.ite_none_right_eq_some, Option.some.injEq,
            Prod.mk.injEq] at taken
          obtain ⟨admits, rfl, rfl⟩ := taken
          exact .whole admits

section Tokens

variable {cursor rest : Cursor} {trees : List Tree} {follows : Bool}

theorem leaf_eq_done {kind : Kind} {shape : Shape} :
    cursor.leaf kind shape follows = .done trees rest ↔
      cursor.broken = false ∧ ∃ token tokens, shape.take? cursor.tokens = some (token, tokens)
        ∧ trees = [.leaf kind .plain token] ∧ rest = Cursor.after tokens follows := by
  unfold Cursor.leaf
  cases cursor.broken with
  | true => simp
  | false =>
      cases taken : shape.take? cursor.tokens with
      | none => simp
      | some pair =>
          obtain ⟨token, tokens⟩ := pair
          simp [eq_comm]

/-- A terminator is the end of the line or of the source, or a mark that ends the line. -/
theorem terminator_eq_done :
    cursor.terminator follows = .done trees rest ↔
      (cursor.broken = true ∨ cursor.tokens = []) ∧ trees = []
          ∧ rest = { cursor with broken := false }
        ∨ cursor.broken = false ∧ ∃ token tokens, cursor.tokens = token :: tokens
          ∧ Cursor.isTerminator token = true ∧ trees = [.leaf .mark .plain token]
          ∧ rest = Cursor.after tokens follows := by
  unfold Cursor.terminator
  obtain ⟨tokens, broken⟩ := cursor
  cases broken with
  | true => simp [@eq_comm _ _ rest]
  | false =>
      cases tokens with
      | nil => simp [@eq_comm _ _ rest]
      | cons token tokens =>
          cases ends : Cursor.isTerminator token with
          | true => simp [ends, @eq_comm _ _ rest, @eq_comm _ _ trees]
          | false => simp [ends]

end Tokens

section Relation

variable {Rule : Type} {rules : Rule → Gram Rule}

/-- What an expression reads and where it leaves off. -/
inductive Reads (rules : Rule → Gram Rule) :
    Gram Rule → Setting → Cursor → List Tree → Cursor → Prop where
  | empty {setting cursor} : Reads rules .empty setting cursor [] cursor
  | leaf {kind shape setting cursor token tokens} (whole : cursor.broken = false)
      (taken : shape.take? cursor.tokens = some (token, tokens)) :
      Reads rules (.leaf kind shape) setting cursor [.leaf kind .plain token]
        (.after tokens setting.follows)
  | ended {setting cursor} (finished : cursor.broken = true ∨ cursor.tokens = []) :
      Reads rules .terminator setting cursor [] { cursor with broken := false }
  | terminator {setting cursor token tokens} (whole : cursor.broken = false)
      (next : cursor.tokens = token :: tokens) (ends : Cursor.isTerminator token = true) :
      Reads rules .terminator setting cursor [.leaf .mark .plain token]
        (.after tokens setting.follows)
  | seq {first second setting cursor before middle trees rest}
      (early : Reads rules first
        { setting with follows := second.terminatorBefore setting.follows } cursor before middle)
      (late : Reads rules second setting middle trees rest) :
      Reads rules (.seq first second) setting cursor (before ++ trees) rest
  | left {first second setting cursor trees rest}
      (chosen : Reads rules first setting cursor trees rest) :
      Reads rules (.alt first second) setting cursor trees rest
  | right {first second setting cursor trees rest}
      (none : reading rules first setting cursor = .mismatch)
      (chosen : Reads rules second setting cursor trees rest) :
      Reads rules (.alt first second) setting cursor trees rest
  | stop {body setting cursor}
      (none : reading rules body
        { setting with follows := (Gram.many body).terminatorBefore setting.follows } cursor
          = .mismatch) :
      Reads rules (.many body) setting cursor [] cursor
  | more {body setting cursor before middle trees rest}
      (once : Reads rules body
        { setting with follows := (Gram.many body).terminatorBefore setting.follows } cursor
        before middle)
      (again : Reads rules (.many body) setting middle trees rest) :
      Reads rules (.many body) setting cursor (before ++ trees) rest
  | node {kind body setting cursor trees rest}
      (inside : Reads rules body setting cursor trees rest) :
      Reads rules (.node kind body) setting cursor [.node kind .plain trees] rest
  | as {role body setting cursor trees rest}
      (inside : Reads rules body setting cursor trees rest) :
      Reads rules (.as role body) setting cursor (trees.map (Tree.withRole role)) rest
  | rule {name setting cursor trees rest}
      (inside : Reads rules (rules name) ⟨setting.follows, setting.follows, []⟩ cursor trees rest) :
      Reads rules (.rule name) setting cursor trees rest
  | hold {subject last setting cursor held middle trees rest}
      (early : Reads rules subject
        { setting with follows := last.terminatorBefore setting.follows } cursor held middle)
      (late : Reads rules last { setting with held := held } middle trees rest) :
      Reads rules (.hold subject last) setting cursor trees rest
  | held {setting cursor} : Reads rules .held setting cursor setting.held cursor
  | grown {step setting cursor}
      (none : reading rules step
        { setting with follows := (Gram.grow step).terminatorBefore setting.follows } cursor
          = .mismatch) :
      Reads rules (.grow step) setting cursor setting.held cursor
  | grow {step setting cursor held middle trees rest}
      (once : Reads rules step
        { setting with follows := (Gram.grow step).terminatorBefore setting.follows } cursor
        held middle)
      (again : Reads rules (.grow step) { setting with held := held } middle trees rest) :
      Reads rules (.grow step) setting cursor trees rest
  | ahead {body setting cursor trees rest}
      (there : Reads rules body setting cursor trees rest) :
      Reads rules (.ahead body) setting cursor [] cursor
  | absent {body setting cursor} (none : reading rules body setting cursor = .mismatch) :
      Reads rules (.absent body) setting cursor [] cursor
  | joined {setting cursor} (free : (setting.ends && cursor.atLineStart) = false) :
      Reads rules .joined setting cursor [] cursor

variable {depth : Nat} {g : Gram Rule} {setting : Setting} {cursor rest : Cursor} {trees : List Tree}

/-- What is read with some bound is read as the relation says. -/
theorem reads_of_read (found : read rules depth g setting cursor = .done trees rest) :
    Reads rules g setting cursor trees rest := by
  induction depth generalizing g setting cursor trees rest with
  | zero => simp [read] at found
  | succ depth ih =>
      have unread {g : Gram Rule} {setting : Setting}
          (none : read rules depth g setting cursor = .mismatch) :
          reading rules g setting cursor = .mismatch :=
        (reading_eq_read rules (by simp [none])).trans none
      cases g with
      | empty | held =>
          obtain ⟨rfl, rfl⟩ := Reply.done.inj found
          constructor
      | leaf kind shape =>
          obtain ⟨whole, token, tokens, taken, rfl, rfl⟩ := leaf_eq_done.1 found
          exact .leaf whole taken
      | terminator =>
          obtain ⟨finished, rfl, rfl⟩ | ⟨whole, token, tokens, next, ends, rfl, rfl⟩ :=
            terminator_eq_done.1 found
          · exact .ended finished
          · exact .terminator whole next ends
      | seq first second =>
          rw [read_seq, Reply.andThen_eq_done] at found
          obtain ⟨before, middle, early, found⟩ := found
          obtain ⟨more, late, rfl⟩ := Reply.after_eq_done.1 found
          exact .seq (ih early) (ih late)
      | alt first second =>
          rw [read_alt, Reply.orElse_eq_done] at found
          obtain chosen | ⟨none, chosen⟩ := found
          · exact .left (ih chosen)
          · exact .right (unread none) (ih chosen)
      | many body =>
          rw [read_many, Reply.branch_eq_done] at found
          obtain ⟨before, middle, once, found⟩ | ⟨none, stays⟩ := found
          · obtain ⟨more, again, rfl⟩ := Reply.after_eq_done.1 found
            exact .more (ih once) (ih again)
          · obtain ⟨rfl, rfl⟩ := Reply.done.inj stays
            exact .stop (unread none)
      | node kind body =>
          obtain ⟨inner, inside, rfl⟩ := Reply.map_eq_done.1 found
          exact .node (ih inside)
      | as role body =>
          obtain ⟨inner, inside, rfl⟩ := Reply.map_eq_done.1 found
          exact .as (ih inside)
      | rule name => exact .rule (ih found)
      | hold subject last =>
          obtain ⟨held, middle, early, late⟩ := Reply.andThen_eq_done.1 found
          exact .hold (ih early) (ih late)
      | grow step =>
          rw [read_grow, Reply.branch_eq_done] at found
          obtain ⟨held, middle, once, again⟩ | ⟨none, stays⟩ := found
          · exact .grow (ih once) (ih again)
          · obtain ⟨rfl, rfl⟩ := Reply.done.inj stays
            exact .grown (unread none)
      | ahead body =>
          rw [read_ahead, Reply.branch_eq_done] at found
          obtain ⟨before, middle, there, stays⟩ | ⟨-, missing⟩ := found
          · obtain ⟨rfl, rfl⟩ := Reply.done.inj stays
            exact .ahead (ih there)
          · simp at missing
      | absent body =>
          rw [read_absent, Reply.branch_eq_done] at found
          obtain ⟨before, middle, -, missing⟩ | ⟨none, stays⟩ := found
          · simp at missing
          · obtain ⟨rfl, rfl⟩ := Reply.done.inj stays
            exact .absent (unread none)
      | joined =>
          simp only [read] at found
          split at found
          · simp at found
          · rename_i free
            obtain ⟨rfl, rfl⟩ := Reply.done.inj found
            exact .joined (by simpa using free)

theorem Reads.reading (reads : Reads rules g setting cursor trees rest) :
    reading rules g setting cursor = .done trees rest := by
  induction reads with
  | empty | held => simp
  | leaf whole taken => exact (reading_leaf ..).trans (leaf_eq_done.2 ⟨whole, _, _, taken, rfl, rfl⟩)
  | ended finished => exact (reading_terminator ..).trans (terminator_eq_done.2 (.inl ⟨finished, rfl, rfl⟩))
  | terminator whole next ends =>
      exact (reading_terminator ..).trans
        (terminator_eq_done.2 (.inr ⟨whole, _, _, next, ends, rfl, rfl⟩))
  | seq _ _ early late => rw [reading_seq, early, Reply.andThen_done, late, Reply.after_done]
  | left _ chosen => simp [chosen]
  | right none _ chosen => simp [none, chosen]
  | stop none => rw [reading_many, none, Reply.branch_mismatch]
  | more _ _ once again => rw [reading_many, once, Reply.branch_done, again, Reply.after_done]
  | node _ inside => simp [inside]
  | as _ inside => simp [inside]
  | rule _ inside => rw [reading_rule, inside]
  | hold _ _ early late => rw [reading_hold, early, Reply.andThen_done, late]
  | grown none => rw [reading_grow, none, Reply.branch_mismatch]
  | grow _ _ once again => rw [reading_grow, once, Reply.branch_done, again]
  | ahead _ there => simp [there]
  | absent none => simp [none]
  | joined free => simp [free]

/-- The relation is the reader's own. -/
theorem reads_iff :
    Reads rules g setting cursor trees rest ↔ reading rules g setting cursor = .done trees rest := by
  refine ⟨Reads.reading, fun found => ?_⟩
  obtain ⟨depth, same⟩ := (reading_eventually rules g setting cursor).exists
  exact reads_of_read (same.trans found)

end Relation

end InterfaceMocks.Grammar
