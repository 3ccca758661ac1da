import InterfaceMocks.Grammar.Reading
import Mathlib.Order.Filter.AtTopBot.Basic

/-!
Reading without a bound on depth. An answer that is not `exhausted` does not change when the bound
grows, so that every expression has one answer in the limit, `reading`. The limit satisfies the
equations of `read` with the bound left out, and proofs about what is read use these equations only.
-/

namespace InterfaceMocks.Grammar

open InterfaceMocks.Syntax
open Filter

attribute [simp] Gram.terminatorBefore Gram.nullable Gram.startsWithTerminator
attribute [simp] Gram.sequence Gram.choice Gram.optional Gram.separated Gram.leftward
attribute [simp] Gram.punct Gram.keyword

namespace Reply

/-- The same answer, or one that was cut off before it could be given. -/
def Approximates (less more : Reply) : Prop := less = exhausted ∨ less = more

theorem approximates_exhausted (reply : Reply) : exhausted.Approximates reply := .inl rfl

theorem approximates_refl (reply : Reply) : reply.Approximates reply := .inr rfl

def branch (reply : Reply) (found : List Tree → Cursor → Reply) (missing : Reply) : Reply :=
  match reply with
  | done trees rest => found trees rest
  | mismatch => missing
  | exhausted => exhausted

/-! Every way of going on is a branch, so that a fact about branches is one about all of them. -/

section Branches

variable (reply : Reply)

theorem andThen_eq_branch (next : List Tree → Cursor → Reply) :
    reply.andThen next = reply.branch next mismatch := by cases reply <;> rfl

theorem orElse_eq_branch (other : Unit → Reply) :
    reply.orElse other = reply.branch done (other ()) := by cases reply <;> rfl

theorem after_eq_branch (trees : List Tree) :
    reply.after trees = reply.branch (fun more rest => done (trees ++ more) rest) mismatch := by
  cases reply <;> rfl

theorem map_eq_branch (f : List Tree → List Tree) :
    reply.map f = reply.branch (fun trees rest => done (f trees) rest) mismatch := by
  cases reply <;> rfl

end Branches

theorem approximates_branch {less more : Reply} {found found' : List Tree → Cursor → Reply}
    {missing missing' : Reply} (first : less.Approximates more)
    (second : ∀ trees rest, (found trees rest).Approximates (found' trees rest))
    (third : missing.Approximates missing') :
    (less.branch found missing).Approximates (more.branch found' missing') := by
  rcases first with rfl | rfl
  · exact approximates_exhausted _
  · cases less with
    | done trees rest => exact second trees rest
    | mismatch => exact third
    | exhausted => exact approximates_refl _

theorem approximates_andThen {less more : Reply} {next next' : List Tree → Cursor → Reply}
    (first : less.Approximates more)
    (second : ∀ trees rest, (next trees rest).Approximates (next' trees rest)) :
    (less.andThen next).Approximates (more.andThen next') := by
  rw [andThen_eq_branch, andThen_eq_branch]
  exact approximates_branch first second (approximates_refl _)

theorem approximates_orElse {less more : Reply} {other other' : Unit → Reply}
    (first : less.Approximates more) (second : ∀ u, (other u).Approximates (other' u)) :
    (less.orElse other).Approximates (more.orElse other') := by
  rw [orElse_eq_branch, orElse_eq_branch]
  exact approximates_branch first (fun _ _ => approximates_refl _) (second ())

theorem approximates_after {less more : Reply} (trees : List Tree)
    (first : less.Approximates more) : (less.after trees).Approximates (more.after trees) := by
  rw [after_eq_branch, after_eq_branch]
  exact approximates_branch first (fun _ _ => approximates_refl _) (approximates_refl _)

theorem approximates_map {less more : Reply} (f : List Tree → List Tree)
    (first : less.Approximates more) : (less.map f).Approximates (more.map f) := by
  rw [map_eq_branch, map_eq_branch]
  exact approximates_branch first (fun _ _ => approximates_refl _) (approximates_refl _)

/-! Answers are simplified from the left: what comes after an answer is looked at only once the
answer is known. -/

section Simplification

variable {reply reply' : Reply} (trees more : List Tree) (rest : Cursor)

@[congr] theorem andThen_congr {next : List Tree → Cursor → Reply} (same : reply = reply') :
    reply.andThen next = reply'.andThen next := same ▸ rfl

@[congr] theorem orElse_congr {other : Unit → Reply} (same : reply = reply') :
    reply.orElse other = reply'.orElse other := same ▸ rfl

@[congr] theorem branch_congr {found : List Tree → Cursor → Reply} {missing : Reply}
    (same : reply = reply') : reply.branch found missing = reply'.branch found missing :=
  same ▸ rfl

@[simp] theorem andThen_done (next : List Tree → Cursor → Reply) :
    (done trees rest).andThen next = next trees rest := rfl

@[simp] theorem andThen_mismatch (next : List Tree → Cursor → Reply) :
    mismatch.andThen next = mismatch := rfl

@[simp] theorem orElse_done (other : Unit → Reply) :
    (done trees rest).orElse other = done trees rest := rfl

@[simp] theorem orElse_mismatch (other : Unit → Reply) : mismatch.orElse other = other () := rfl

@[simp] theorem branch_done (found : List Tree → Cursor → Reply) (missing : Reply) :
    (done trees rest).branch found missing = found trees rest := rfl

@[simp] theorem branch_mismatch (found : List Tree → Cursor → Reply) (missing : Reply) :
    mismatch.branch found missing = missing := rfl

@[simp] theorem after_done : (done more rest).after trees = done (trees ++ more) rest := rfl

@[simp] theorem after_mismatch : mismatch.after trees = mismatch := rfl

@[simp] theorem map_done (f : List Tree → List Tree) :
    (done trees rest).map f = done (f trees) rest := rfl

@[simp] theorem map_mismatch (f : List Tree → List Tree) : mismatch.map f = mismatch := rfl

end Simplification

end Reply

variable {Rule : Type} (rules : Rule → Gram Rule)

section Steps

variable (depth : Nat) (setting : Setting) (cursor : Cursor)

theorem read_seq (first second : Gram Rule) :
    read rules (depth + 1) (.seq first second) setting cursor =
      (read rules depth first
          { setting with follows := second.terminatorBefore setting.follows } cursor).andThen
        fun trees rest => (read rules depth second setting rest).after trees := rfl

theorem read_alt (first second : Gram Rule) :
    read rules (depth + 1) (.alt first second) setting cursor =
      (read rules depth first setting cursor).orElse
        fun _ => read rules depth second setting cursor := rfl

theorem read_node (kind : Kind) (body : Gram Rule) :
    read rules (depth + 1) (.node kind body) setting cursor =
      (read rules depth body setting cursor).map fun trees => [.node kind .plain trees] := rfl

theorem read_as (role : Role) (body : Gram Rule) :
    read rules (depth + 1) (.as role body) setting cursor =
      (read rules depth body setting cursor).map fun trees => trees.map (Tree.withRole role) := rfl

theorem read_rule (name : Rule) :
    read rules (depth + 1) (.rule name) setting cursor =
      read rules depth (rules name) ⟨setting.follows, setting.follows, []⟩ cursor := rfl

theorem read_hold (subject rest : Gram Rule) :
    read rules (depth + 1) (.hold subject rest) setting cursor =
      (read rules depth subject
          { setting with follows := rest.terminatorBefore setting.follows } cursor).andThen
        fun trees next => read rules depth rest { setting with held := trees } next := rfl

-- The four expressions that look at an answer by cases, with `branch` for the cases.
theorem read_many (body : Gram Rule) :
    read rules (depth + 1) (.many body) setting cursor =
      (read rules depth body
          { setting with follows := (Gram.many body).terminatorBefore setting.follows }
          cursor).branch
        (fun trees rest => (read rules depth (.many body) setting rest).after trees)
        (.done [] cursor) := rfl

theorem read_grow (step : Gram Rule) :
    read rules (depth + 1) (.grow step) setting cursor =
      (read rules depth step
          { setting with follows := (Gram.grow step).terminatorBefore setting.follows }
          cursor).branch
        (fun trees rest => read rules depth (.grow step) { setting with held := trees } rest)
        (.done setting.held cursor) := rfl

theorem read_ahead (body : Gram Rule) :
    read rules (depth + 1) (.ahead body) setting cursor =
      (read rules depth body setting cursor).branch (fun _ _ => .done [] cursor) .mismatch := rfl

theorem read_absent (body : Gram Rule) :
    read rules (depth + 1) (.absent body) setting cursor =
      (read rules depth body setting cursor).branch (fun _ _ => .mismatch) (.done [] cursor) := rfl

end Steps

/-- A deeper bound keeps every answer that was given. -/
theorem read_approximates (depth : Nat) (g : Gram Rule) (setting : Setting) (cursor : Cursor) :
    (read rules depth g setting cursor).Approximates (read rules (depth + 1) g setting cursor) := by
  induction depth generalizing g setting cursor with
  | zero => exact Reply.approximates_exhausted _
  | succ depth ih =>
      cases g with
      | empty => exact Reply.approximates_refl _
      | leaf kind shape => exact Reply.approximates_refl _
      | terminator => exact Reply.approximates_refl _
      | held => exact Reply.approximates_refl _
      | joined => exact Reply.approximates_refl _
      | seq first second =>
          exact Reply.approximates_andThen (ih _ _ _) fun trees rest =>
            Reply.approximates_after trees (ih _ _ _)
      | alt first second =>
          exact Reply.approximates_orElse (ih _ _ _) fun _ => ih _ _ _
      | many body =>
          rw [read_many, read_many]
          exact Reply.approximates_branch (ih _ _ _)
            (fun trees rest => Reply.approximates_after trees (ih _ _ _)) (Reply.approximates_refl _)
      | node kind body => exact Reply.approximates_map _ (ih _ _ _)
      | as role body => exact Reply.approximates_map _ (ih _ _ _)
      | rule name => exact ih _ _ _
      | hold subject rest =>
          exact Reply.approximates_andThen (ih _ _ _) fun trees rest => ih _ _ _
      | grow step =>
          rw [read_grow, read_grow]
          exact Reply.approximates_branch (ih _ _ _) (fun trees rest => ih _ _ _)
            (Reply.approximates_refl _)
      | ahead body =>
          rw [read_ahead, read_ahead]
          exact Reply.approximates_branch (ih _ _ _) (fun _ _ => Reply.approximates_refl _)
            (Reply.approximates_refl _)
      | absent body =>
          rw [read_absent, read_absent]
          exact Reply.approximates_branch (ih _ _ _) (fun _ _ => Reply.approximates_refl _)
            (Reply.approximates_refl _)

theorem read_stable {depth deeper : Nat} {g : Gram Rule} {setting : Setting} {cursor : Cursor}
    (given : read rules depth g setting cursor ≠ .exhausted) (more : depth ≤ deeper) :
    read rules deeper g setting cursor = read rules depth g setting cursor := by
  induction more with
  | refl => rfl
  | step _ ih =>
      rcases read_approximates rules _ g setting cursor with cutOff | same
      · exact absurd (ih ▸ cutOff) given
      · exact same ▸ ih

open Classical in
/-- The answer in the limit; `exhausted` where no bound is enough. -/
noncomputable def reading (g : Gram Rule) (setting : Setting) (cursor : Cursor) : Reply :=
  if given : ∃ depth, read rules depth g setting cursor ≠ .exhausted then
    read rules given.choose g setting cursor
  else .exhausted

theorem reading_eventually (g : Gram Rule) (setting : Setting) (cursor : Cursor) :
    ∀ᶠ depth in atTop, read rules depth g setting cursor = reading rules g setting cursor := by
  rw [eventually_atTop]
  unfold reading
  split
  · rename_i given
    exact ⟨given.choose, fun deeper more => read_stable rules given.choose_spec more⟩
  · rename_i never
    refine ⟨0, fun deeper _ => ?_⟩
    by_contra given
    exact never ⟨deeper, given⟩

theorem reading_eq_read {depth : Nat} {g : Gram Rule} {setting : Setting} {cursor : Cursor}
    (given : read rules depth g setting cursor ≠ .exhausted) :
    reading rules g setting cursor = read rules depth g setting cursor := by
  obtain ⟨deeper, same, more⟩ :=
    ((reading_eventually rules g setting cursor).and (eventually_ge_atTop depth)).exists
  rw [← same]
  exact read_stable rules given more

/-- What is read one level down for all large bounds is what is read in the limit. -/
theorem reading_unique {g : Gram Rule} {setting : Setting} {cursor : Cursor} {limit : Reply}
    (unfolds : ∀ᶠ depth in atTop, read rules (depth + 1) g setting cursor = limit) :
    reading rules g setting cursor = limit := by
  have whole := (tendsto_add_atTop_nat 1).eventually (reading_eventually rules g setting cursor)
  obtain ⟨depth, same, unfolded⟩ := (whole.and unfolds).exists
  rw [← same, unfolded]

/-! Answers that come to rest, put together, come to rest. -/

theorem Reply.branch_eventually {replies : Nat → Reply} {reply missing : Reply}
    {found : Nat → List Tree → Cursor → Reply} {later : List Tree → Cursor → Reply}
    (start : ∀ᶠ depth in atTop, replies depth = reply)
    (goesOn : ∀ trees rest, ∀ᶠ depth in atTop, found depth trees rest = later trees rest) :
    ∀ᶠ depth in atTop, (replies depth).branch (found depth) missing = reply.branch later missing := by
  cases reply with
  | done trees rest =>
      filter_upwards [start, goesOn trees rest] with depth here there
      rw [here, branch_done, branch_done, there]
  | mismatch | exhausted =>
      filter_upwards [start] with depth here
      rw [here]
      rfl

theorem Reply.andThen_eventually {replies : Nat → Reply} {reply : Reply}
    {next : Nat → List Tree → Cursor → Reply} {later : List Tree → Cursor → Reply}
    (start : ∀ᶠ depth in atTop, replies depth = reply)
    (goesOn : ∀ trees rest, ∀ᶠ depth in atTop, next depth trees rest = later trees rest) :
    ∀ᶠ depth in atTop, (replies depth).andThen (next depth) = reply.andThen later := by
  simp only [andThen_eq_branch]
  exact branch_eventually start goesOn

section Equations

variable (setting : Setting) (cursor : Cursor)

@[simp] theorem reading_empty : reading rules .empty setting cursor = .done [] cursor :=
  reading_unique rules (.of_forall fun _ => rfl)

@[simp] theorem reading_leaf (kind : Kind) (shape : Shape) :
    reading rules (.leaf kind shape) setting cursor = cursor.leaf kind shape setting.follows :=
  reading_unique rules (.of_forall fun _ => rfl)

@[simp] theorem reading_terminator :
    reading rules .terminator setting cursor = cursor.terminator setting.follows :=
  reading_unique rules (.of_forall fun _ => rfl)

@[simp] theorem reading_held : reading rules .held setting cursor = .done setting.held cursor :=
  reading_unique rules (.of_forall fun _ => rfl)

@[simp] theorem reading_joined :
    reading rules .joined setting cursor =
      if setting.ends && cursor.atLineStart then .mismatch else .done [] cursor :=
  reading_unique rules (.of_forall fun _ => rfl)

@[simp] theorem reading_seq (first second : Gram Rule) :
    reading rules (.seq first second) setting cursor =
      (reading rules first
          { setting with follows := second.terminatorBefore setting.follows } cursor).andThen
        fun trees rest => (reading rules second setting rest).after trees := by
  apply reading_unique
  simp only [read_seq]
  refine Reply.andThen_eventually (reading_eventually ..) fun trees rest => ?_
  exact (reading_eventually rules second setting rest).mono fun _ => congrArg (Reply.after trees)

@[simp] theorem reading_alt (first second : Gram Rule) :
    reading rules (.alt first second) setting cursor =
      (reading rules first setting cursor).orElse
        fun _ => reading rules second setting cursor := by
  apply reading_unique
  filter_upwards [reading_eventually rules first setting cursor,
    reading_eventually rules second setting cursor] with depth here there
  simp only [read_alt, here, there]

theorem reading_many (body : Gram Rule) :
    reading rules (.many body) setting cursor =
      (reading rules body
          { setting with follows := (Gram.many body).terminatorBefore setting.follows }
          cursor).branch
        (fun trees rest => (reading rules (.many body) setting rest).after trees)
        (.done [] cursor) := by
  apply reading_unique
  simp only [read_many]
  refine Reply.branch_eventually (reading_eventually ..) fun trees rest => ?_
  exact (reading_eventually rules (.many body) setting rest).mono fun _ => congrArg (Reply.after trees)

@[simp] theorem reading_node (kind : Kind) (body : Gram Rule) :
    reading rules (.node kind body) setting cursor =
      (reading rules body setting cursor).map fun trees => [.node kind .plain trees] := by
  apply reading_unique
  filter_upwards [reading_eventually rules body setting cursor] with depth here
  rw [read_node, here]

@[simp] theorem reading_as (role : Role) (body : Gram Rule) :
    reading rules (.as role body) setting cursor =
      (reading rules body setting cursor).map fun trees => trees.map (Tree.withRole role) := by
  apply reading_unique
  filter_upwards [reading_eventually rules body setting cursor] with depth here
  rw [read_as, here]

theorem reading_rule (name : Rule) :
    reading rules (.rule name) setting cursor =
      reading rules (rules name) ⟨setting.follows, setting.follows, []⟩ cursor := by
  apply reading_unique
  filter_upwards [reading_eventually rules (rules name)
    ⟨setting.follows, setting.follows, []⟩ cursor] with depth here
  rw [read_rule, here]

@[simp] theorem reading_hold (subject rest : Gram Rule) :
    reading rules (.hold subject rest) setting cursor =
      (reading rules subject
          { setting with follows := rest.terminatorBefore setting.follows } cursor).andThen
        fun trees next => reading rules rest { setting with held := trees } next := by
  apply reading_unique
  simp only [read_hold]
  exact Reply.andThen_eventually (reading_eventually ..) fun _ _ => reading_eventually ..

theorem reading_grow (step : Gram Rule) :
    reading rules (.grow step) setting cursor =
      (reading rules step
          { setting with follows := (Gram.grow step).terminatorBefore setting.follows }
          cursor).branch
        (fun trees rest => reading rules (.grow step) { setting with held := trees } rest)
        (.done setting.held cursor) := by
  apply reading_unique
  simp only [read_grow]
  exact Reply.branch_eventually (reading_eventually ..) fun _ _ => reading_eventually ..

@[simp] theorem reading_ahead (body : Gram Rule) :
    reading rules (.ahead body) setting cursor =
      (reading rules body setting cursor).branch (fun _ _ => .done [] cursor) .mismatch := by
  apply reading_unique
  filter_upwards [reading_eventually rules body setting cursor] with depth here
  rw [read_ahead, here]

@[simp] theorem reading_absent (body : Gram Rule) :
    reading rules (.absent body) setting cursor =
      (reading rules body setting cursor).branch (fun _ _ => .mismatch) (.done [] cursor) := by
  apply reading_unique
  filter_upwards [reading_eventually rules body setting cursor] with depth here
  rw [read_absent, here]

end Equations

end InterfaceMocks.Grammar
