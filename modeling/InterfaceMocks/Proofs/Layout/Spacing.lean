import InterfaceMocks.Layout.Spacing
import Mathlib.Tactic.Common

/-!
Blank lines are decided once. Items that are set as far apart as was decided for them open with the
same keywords as before, and the same is decided again. A comment is the one kind of item whose opener
depends on rows. It stays attached to what follows it, since one line break is kept there, and one that
was loose stays loose, since what follows it has an opener other than its own, or is a comment as well,
and is set off by a blank line either way.
-/

namespace InterfaceMocks.Layout

open InterfaceMocks.Syntax

/-- The rows from the end of each item to the start of the next. -/
def rowsBetween : List Span → List Nat
  | [] => []
  | [_] => []
  | previous :: next :: rest => (next.first - previous.last) :: rowsBetween (next :: rest)

section Openers

variable {span previous next : Span} {rest : List Span}

theorem first_of_some {kind : Kind} (some : span.kind = some kind) (rest : List Span) :
    Opener.first (span :: rest) = Opener.ofKind span.kind := by
  cases rest <;> simp [Opener.first, Span.isComment, some]

theorem ofKind_ne_comment (kind : Kind) : Opener.ofKind (some kind) ≠ .comment := by
  cases kind <;> simp [Opener.ofKind]

theorem first_attached (comment : previous.isComment = true)
    (attached : next.first = previous.last + 1) :
    Opener.first (previous :: next :: rest) = Opener.first (next :: rest) := by
  simp [Opener.first, comment, attached]

theorem first_loose (loose : ¬ (previous.isComment = true ∧ next.first = previous.last + 1)) :
    Opener.first (previous :: next :: rest) = Opener.ofKind previous.kind := by
  rw [Opener.first, if_neg (by simpa using loose)]

end Openers

section Breaks

variable {previous next previous' next' : Span} {before after : Opener} {rest : List Span}

theorem breaksBetween_near (near : previous.isComment = true ∧ next.first - previous.last = 1) :
    breaksBetween before previous after next = 1 := by
  simp [breaksBetween, near]

theorem breaksBetween_apart (apart : ¬ (previous.isComment = true ∧ next.first - previous.last = 1)) :
    breaksBetween before previous after next =
      if before ≠ after ∨ next.isComment = true then 2
      else min (max (next.first - previous.last) 1) 2 := by
  rw [breaksBetween, if_neg (by simpa using apart)]
  by_cases least : before ≠ after ∨ next.isComment = true
  · simp only [least, Bool.or_eq_true, decide_eq_true_eq, if_true]
    omega
  · simp [least]

theorem breaksBetween_bounds :
    1 ≤ breaksBetween before previous after next ∧ breaksBetween before previous after next ≤ 2 := by
  by_cases near : previous.isComment = true ∧ next.first - previous.last = 1
  · rw [breaksBetween_near near]
    omega
  · rw [breaksBetween_apart near]
    split <;> omega

/-- What follows a comment, other than right below it, is set off by a blank line. -/
theorem breaksBetween_loose (comment : previous.isComment = true)
    (loose : next.first ≠ previous.last + 1) :
    breaksBetween (Opener.first (previous :: next :: rest)) previous
      (Opener.first (next :: rest)) next = 2 := by
  have alone : Opener.first (previous :: next :: rest) = .comment := by
    rw [first_loose fun attached => loose attached.2]
    rw [Span.isComment, Option.isNone_iff_eq_none] at comment
    rw [comment, Opener.ofKind]
  rw [breaksBetween_apart fun near => loose (by omega), if_pos ?_]
  cases kind : next.kind with
  | none => exact .inr (by simp [Span.isComment, kind])
  | some other =>
      refine .inl ?_
      rw [alone, first_of_some kind, kind]
      exact (ofKind_ne_comment other).symm

/-- What is right below a comment, and only that, is one line break away from it. -/
theorem breaksBetween_comment (comment : previous.isComment = true) :
    breaksBetween (Opener.first (previous :: next :: rest)) previous
      (Opener.first (next :: rest)) next = 1 ↔ next.first = previous.last + 1 := by
  constructor
  · intro one
    by_contra loose
    rw [breaksBetween_loose comment loose] at one
    omega
  · intro attached
    exact breaksBetween_near ⟨comment, by omega⟩

/-- Neighbours that are as far apart as was decided are left there. -/
theorem breaksBetween_again (comments : previous'.isComment = previous.isComment)
    (comments' : next'.isComment = next.isComment)
    (rows : next'.first - previous'.last = breaksBetween before previous after next) :
    breaksBetween before previous' after next' = breaksBetween before previous after next := by
  have bounds := @breaksBetween_bounds previous next before after
  by_cases near : previous'.isComment = true ∧ next'.first - previous'.last = 1
  · rw [breaksBetween_near near, ← rows, near.2]
  · have apart : ¬ (previous.isComment = true ∧ next.first - previous.last = 1) := by
      intro close
      exact near ⟨comments.trans close.1, rows.trans (breaksBetween_near close)⟩
    rw [breaksBetween_apart near, comments', rows]
    -- the least distance depends on openers and kinds alone, and was kept to before
    by_cases least : before ≠ after ∨ next.isComment = true
    · rw [if_pos least, breaksBetween_apart apart, if_pos least]
    · rw [if_neg least]
      omega

end Breaks

section Runs

variable {spans spans' : List Span}

theorem isComment_of_kind {span span' : Span} (kind : span'.kind = span.kind) :
    span'.isComment = span.isComment := by
  rw [Span.isComment, Span.isComment, kind]

theorem first_again (kinds : spans'.map Span.kind = spans.map Span.kind)
    (rows : rowsBetween spans' = breaks spans) : Opener.first spans' = Opener.first spans := by
  induction spans generalizing spans' with
  | nil =>
      obtain rfl : spans' = [] := by simpa using kinds
      rfl
  | cons previous rest ih =>
      cases spans' with
      | nil => simp at kinds
      | cons previous' rest' =>
          obtain ⟨kind, later⟩ := List.cons.inj kinds
          cases rest with
          | nil =>
              obtain rfl : rest' = [] := by simpa using later
              simp [Opener.first, kind]
          | cons next rest =>
              cases rest' with
              | nil => simp at later
              | cons next' rest' =>
                  obtain ⟨row, rows⟩ := List.cons.inj rows
                  have same := ih later rows
                  have comments := isComment_of_kind kind
                  -- a comment is as attached as it was
                  have linked : previous.isComment = true →
                      (next'.first = previous'.last + 1 ↔ next.first = previous.last + 1) := by
                    intro comment
                    have decided := @breaksBetween_comment previous next rest comment
                    rw [← row] at decided
                    rw [← decided]
                    omega
                  by_cases attached : previous.isComment = true ∧ next.first = previous.last + 1
                  · rw [first_attached attached.1 attached.2, ← same]
                    exact first_attached (comments.trans attached.1)
                      ((linked attached.1).2 attached.2)
                  · rw [first_loose attached, ← kind]
                    refine first_loose fun again => attached ?_
                    have comment := comments.symm.trans again.1
                    exact ⟨comment, (linked comment).1 again.2⟩

theorem breaks_again (kinds : spans'.map Span.kind = spans.map Span.kind)
    (rows : rowsBetween spans' = breaks spans) : breaks spans' = breaks spans := by
  induction spans generalizing spans' with
  | nil =>
      obtain rfl : spans' = [] := by simpa using kinds
      rfl
  | cons previous rest ih =>
      cases spans' with
      | nil => simp at kinds
      | cons previous' rest' =>
          have whole := first_again kinds rows
          obtain ⟨kind, later⟩ := List.cons.inj kinds
          cases rest with
          | nil =>
              obtain rfl : rest' = [] := by simpa using later
              rfl
          | cons next rest =>
              cases rest' with
              | nil => simp at later
              | cons next' rest' =>
                  obtain ⟨row, rows⟩ := List.cons.inj rows
                  have kind' := (List.cons.inj later).1
                  have between := breaksBetween_again (isComment_of_kind kind)
                    (isComment_of_kind kind') row
                  rw [breaks, breaks, whole, first_again later rows, between, ih later rows]

theorem breaks_range (spans : List Span) : ∀ count ∈ breaks spans, count = 1 ∨ count = 2 := by
  induction spans with
  | nil => simp [breaks]
  | cons previous rest ih =>
      cases rest with
      | nil => simp [breaks]
      | cons next rest =>
          intro count member
          rcases List.mem_cons.1 member with rfl | member
          · have bounds := @breaksBetween_bounds previous next
              (Opener.first (previous :: next :: rest)) (Opener.first (next :: rest))
            omega
          · exact ih count member

theorem rowsBetween_drop (kinds : spans'.map Span.kind = spans.map Span.kind)
    (rows : rowsBetween spans' = breaks spans) (i : Nat) :
    rowsBetween (spans'.drop i) = breaks (spans.drop i) := by
  induction i generalizing spans spans' with
  | zero => exact rows
  | succ i ih =>
      match spans, spans' with
      | [], [] => rfl
      | [], _ :: _ => simp at kinds
      | _ :: _, [] => simp at kinds
      | previous :: rest, previous' :: rest' =>
          refine ih (List.cons.inj kinds).2 ?_
          match rest, rest' with
          | [], [] => rfl
          | [], _ :: _ => simp at kinds
          | _ :: _, [] => simp at kinds
          | next :: rest, next' :: rest' => exact (List.cons.inj rows).2

/-- Between each two items stand one or two line breaks. Items of the same kinds that stand as many
rows apart open with the same keywords, each of them, and have the same line breaks between them. -/
theorem breaks_settled (kinds : spans'.map Span.kind = spans.map Span.kind)
    (rows : rowsBetween spans' = breaks spans) :
    (∀ count ∈ breaks spans, count = 1 ∨ count = 2)
      ∧ (∀ i, Opener.first (spans'.drop i) = Opener.first (spans.drop i))
      ∧ breaks spans' = breaks spans := by
  refine ⟨breaks_range spans, fun i => ?_, breaks_again kinds rows⟩
  refine first_again ?_ (rowsBetween_drop kinds rows i)
  rw [List.map_drop, List.map_drop, kinds]

end Runs

/-- A package clause, a function below two comments of which the first starts right below the clause,
a variable in the row where the function ends, and a type some rows below a comment. -/
def crowded : List Span :=
  [⟨some .packageClause, 0, 0⟩, ⟨none, 1, 1⟩, ⟨none, 2, 2⟩, ⟨some .functionDeclaration, 3, 5⟩,
    ⟨some .varDeclaration, 5, 5⟩, ⟨none, 5, 5⟩, ⟨some .typeDeclaration, 9, 11⟩]

/-- The same, as far apart as they are set. -/
def uncrowded : List Span :=
  [⟨some .packageClause, 0, 0⟩, ⟨none, 2, 2⟩, ⟨none, 3, 3⟩, ⟨some .functionDeclaration, 4, 6⟩,
    ⟨some .varDeclaration, 8, 8⟩, ⟨none, 10, 10⟩, ⟨some .typeDeclaration, 12, 14⟩]

theorem breaks_settled_crowded :
    rowsBetween uncrowded = breaks crowded ∧ Opener.first (uncrowded.drop 1) = .func
      ∧ Opener.first (uncrowded.drop 5) = .comment ∧ breaks uncrowded = [2, 1, 1, 2, 2, 2] := by
  have rows : rowsBetween uncrowded = breaks crowded := by decide
  obtain ⟨-, openers, same⟩ := @breaks_settled crowded uncrowded (by decide) rows
  refine ⟨rows, ?_, ?_, ?_⟩
  · rw [openers 1]
    decide
  · rw [openers 5]
    decide
  · rw [same]
    decide

end InterfaceMocks.Layout
