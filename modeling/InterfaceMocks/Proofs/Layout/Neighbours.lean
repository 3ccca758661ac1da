import InterfaceMocks.Proofs.Layout.Spacing
import InterfaceMocks.Proofs.Written.Layouts

/-!
How a file without comments is laid out: each declaration anew, and between two of them one line feed
or two, by what they open with and by how far apart they were written.
-/

namespace InterfaceMocks.Layout

open InterfaceMocks.Syntax
open InterfaceMocks.Grammar

structure Bare (tree : Tree) : Prop where
  named : tree.isNamed = true
  lead : tree.lead.filterMap Gap.comment? = []

def opener (tree : Tree) : Opener := Opener.ofKind (some tree.kind)

def feeds (tree : Tree) : Nat := (Gap.textOf tree.lead).toList.count '\n'

def apart (before after : Tree) : Nat :=
  if opener before = opener after then min (max (feeds after) 1) 2 else 2

/-- The texts of declarations, each with the line breaks to the one before it. -/
def chained (before : Tree) : List Tree → String
  | [] => ""
  | tree :: rest =>
      String.ofList (List.replicate (apart before tree) '\n') ++ declaration tree
        ++ chained tree rest

theorem advance_row (position : Position) (text : String) :
    (position.advance text).row = position.row + text.toList.count '\n' := by
  rw [Position.advance]
  induction text.toList generalizing position with
  | nil => simp
  | cons c rest ih =>
      rw [List.foldl_cons, ih, Position.step]
      by_cases feed : c = '\n'
      · simp [feed]
        omega
      · simp [feed]

theorem placeGaps_plain {gaps : List Gap} (none : gaps.filterMap Gap.comment? = [])
    (position : Position) :
    Source.placeGaps position gaps = ([], position.advance (Gap.textOf gaps)) := by
  induction gaps generalizing position with
  | nil => simp [Source.placeGaps, Gap.textOf, Position.advance]
  | cons gap rest ih =>
      cases gap with
      | blank text =>
          have later := ih (by simpa [Gap.comment?] using none) (position.advance text)
          have split : position.advance (Gap.textOf (.blank text :: rest)) =
              (position.advance text).advance (Gap.textOf rest) := by
            simp [Gap.textOf, Gap.text, Position.advance]
          simp [Source.placeGaps, Gap.text, later, split]
      | comment text => simp [Gap.comment?] at none

theorem placeTrees_bare {tree : Tree} (bare : Bare tree) (position : Position) (rest : List Tree) :
    (Source.placeTrees position (tree :: rest)).1 =
      ⟨.branch tree, position.advance (Gap.textOf tree.lead),
          (position.advance (Gap.textOf tree.lead)).advance tree.text⟩
        :: (Source.placeTrees ((position.advance (Gap.textOf tree.lead)).advance tree.text) rest).1 := by
  simp [Source.placeTrees, placeGaps_plain bare.lead, bare.named]

theorem breaksBetween_placed {before after : Tree} (start stop finish : Position)
    (others more : List Span) :
    breaksBetween (Opener.first (span ⟨.branch before, start, stop⟩ :: others))
        (span ⟨.branch before, start, stop⟩)
        (Opener.first (span ⟨.branch after, stop.advance (Gap.textOf after.lead), finish⟩ :: more))
        (span ⟨.branch after, stop.advance (Gap.textOf after.lead), finish⟩) = apart before after := by
  have row := advance_row stop (Gap.textOf after.lead)
  rw [first_of_some rfl, first_of_some rfl]
  simp only [breaksBetween, span, Span.isComment, Item.kind?, Option.isNone_some, Bool.false_and,
    Bool.or_false, row, apart, opener, feeds]
  by_cases same : Opener.ofKind (some before.kind) = Opener.ofKind (some after.kind)
  · simp [same]
  · simp [same]

theorem joinWith_placed (position : Position) (tree : Tree) (rest : List Tree)
    (bare : ∀ other ∈ tree :: rest, Bare other) :
    joinWith (breaks ((Source.placeTrees position (tree :: rest)).1.map span))
        ((Source.placeTrees position (tree :: rest)).1.map fun placed => topLevel placed.item) =
      declaration tree ++ chained tree rest := by
  induction rest generalizing position tree with
  | nil =>
      rw [placeTrees_bare (bare tree List.mem_cons_self)]
      simp [Source.placeTrees, breaks, joinWith, topLevel, chained]
  | cons next rest ih =>
      have later := ih ((position.advance (Gap.textOf tree.lead)).advance tree.text) next
        fun other member => bare other (List.mem_cons_of_mem _ member)
      rw [placeTrees_bare (bare tree List.mem_cons_self)]
      rw [placeTrees_bare (bare next (by simp))] at later ⊢
      simp only [List.map_cons, breaks, joinWith] at later ⊢
      rw [later, breaksBetween_placed]
      simp [topLevel, chained, String.append_assoc]

theorem file_bare {source : Source} {tree : Tree} {rest : List Tree}
    (trees : source.trees = tree :: rest) (bare : ∀ other ∈ tree :: rest, Bare other)
    (trailing : source.trailing.filterMap Gap.comment? = []) (some : declaration tree ≠ "") :
    file source = declaration tree ++ chained tree rest ++ "\n" := by
  have text := joinWith_placed .start tree rest bare
  have items : source.placed = (Source.placeTrees .start (tree :: rest)).1 := by
    simp [Source.placed, trees, placeGaps_plain trailing]
  have whole : declaration tree ++ chained tree rest ≠ "" := by
    intro empty
    exact some (String.append_eq_empty_iff.1 empty).1
  rw [file, items, text, if_neg whole]

end InterfaceMocks.Layout
