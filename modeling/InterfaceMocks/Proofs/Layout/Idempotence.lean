import InterfaceMocks.Layout.Format
import InterfaceMocks.Proofs.Layout.Declarations
import InterfaceMocks.Proofs.Layout.Neighbours
import InterfaceMocks.Proofs.Text.Replacement

/-!
Formatting what was formatted. A source without comments, all of whose tokens are in its formatted
text and are read from it as the same trees, is formatted once and for all: every declaration has all
its ink, so that it is found again where it was put. Formatting can also lose tokens, or join lines
that are to stay apart, and then a second time gives another text, or none.
-/

namespace InterfaceMocks.Layout

open InterfaceMocks.Syntax InterfaceMocks.Grammar InterfaceMocks.Text
open InterfaceMocks.Written (IsCut Lossless chars parse_lossless)

/-! Sources without comments. -/

theorem comments_none {gaps : List Gap} (inked : ∀ text, .comment text ∈ gaps → 0 < ink text.toList)
    (white : White (Gap.textOf gaps).toList) : gaps.filterMap Gap.comment? = [] := by
  induction gaps with
  | nil => rfl
  | cons gap rest ih =>
      have later : ∀ text, .comment text ∈ rest → 0 < ink text.toList :=
        fun text member => inked text (List.mem_cons_of_mem _ member)
      have split : (Gap.textOf (gap :: rest)).toList = gap.text.toList ++ (Gap.textOf rest).toList := by
        simp [Gap.textOf]
      rw [split, white_append] at white
      cases gap with
      | blank text => simpa [Gap.comment?] using ih later white.2
      | comment text =>
          have some := inked text List.mem_cons_self
          have none : ink text.toList = 0 := white.1.ink
          omega

theorem plain_of_spaced {tree : Tree} (cut : ∀ token ∈ tree.tokens, IsCut token)
    (spaced : ∀ token ∈ tree.tokens, Spaced token) : Plain tree :=
  fun token member => comments_none (cut token member).lead (spaced token member)

/-- Nothing but white space stands between the tokens of a source. -/
structure Uncommented (source : Source) : Prop where
  tokens : ∀ token ∈ Tree.tokensOf source.trees, Spaced token
  trailing : White (Gap.textOf source.trailing).toList

instance (source : Source) : Decidable (Uncommented source) :=
  decidable_of_iff ((∀ token ∈ Tree.tokensOf source.trees, Spaced token)
      ∧ White (Gap.textOf source.trailing).toList)
    ⟨fun ⟨tokens, trailing⟩ => ⟨tokens, trailing⟩, fun ⟨tokens, trailing⟩ => ⟨tokens, trailing⟩⟩

theorem ink_joinWith (counts : List Nat) (texts : List String) :
    ink (joinWith counts texts).toList = ink (texts.flatMap String.toList) := by
  induction texts generalizing counts with
  | nil => cases counts <;> simp [joinWith]
  | cons text rest ih =>
      cases counts with
      | nil => simp [joinWith, ih]
      | cons count counts =>
          by_cases last : rest.isEmpty
          · obtain rfl : rest = [] := by simpa using last
            simp [joinWith]
          · have feeds : ink (List.replicate count '\n') = 0 :=
              (white_replicate (by decide) count).ink
            simp [joinWith, last, ih, feeds]

theorem placeTrees_items (position : Position) {trees : List Tree}
    (plain : ∀ tree ∈ trees, Plain tree) :
    (Source.placeTrees position trees).1.map Placed.item = (trees.filter Tree.isNamed).map Item.branch := by
  induction trees generalizing position with
  | nil => rfl
  | cons tree rest ih =>
      have none := lead_plain (plain tree List.mem_cons_self)
      have later := fun position => ih position fun other member => plain other (by simp [member])
      cases named : tree.isNamed <;> simp [Source.placeTrees, placeGaps_plain none, named, later]

/-- What stands in a source without comments is its declarations. -/
theorem placed_items {source : Source} (plain : ∀ tree ∈ source.trees, Plain tree)
    (trailing : source.trailing.filterMap Gap.comment? = []) :
    source.placed.map Placed.item = source.declarations.map Item.branch := by
  simp [Source.placed, placeGaps_plain trailing, placeTrees_items .start plain, Source.declarations]

theorem placed_texts {source : Source} (plain : ∀ tree ∈ source.trees, Plain tree)
    (trailing : source.trailing.filterMap Gap.comment? = []) :
    source.placed.map (fun placed => topLevel placed.item) = source.declarations.map declaration := by
  have texts := congrArg (List.map topLevel) (placed_items plain trailing)
  simpa [Function.comp_def, topLevel] using texts

theorem ink_file {source : Source} (plain : ∀ tree ∈ source.trees, Plain tree)
    (trailing : source.trailing.filterMap Gap.comment? = []) :
    ink (file source).toList = ink (source.declarations.flatMap fun tree => (declaration tree).toList) := by
  have amount (counts : List Nat) := ink_joinWith counts (source.declarations.map declaration)
  simp only [List.flatMap_map] at amount
  rw [file, placed_texts plain trailing, ← amount (breaks (source.placed.map span))]
  split
  · rename_i empty
    rw [empty]
  · rw [String.toList_append, ink_append]
    rfl

/-! Declarations one after another. -/

theorem inkOf_tokensOf (tree : Tree) (rest : List Tree) :
    inkOf (Tree.tokensOf (tree :: rest)) = inkOf tree.tokens + inkOf (Tree.tokensOf rest) := by
  rw [Tree.tokensOf, inkOf_append]

/-- The declarations of a file have no more ink than its tokens. If they have as much, then all its
trees are declarations, and none of them has lost anything. -/
theorem ink_declarations {trees : List Tree}
    (top : ∀ tree ∈ trees, Solid tree ∨ ∃ token, tree = .leaf .mark .plain token)
    (formed : ∀ tree ∈ trees, WellFormed tree) (cut : ∀ token ∈ Tree.tokensOf trees, IsCut token)
    (spaced : ∀ token ∈ Tree.tokensOf trees, Spaced token) :
    ink ((trees.filter Tree.isNamed).flatMap fun tree => (declaration tree).toList)
        ≤ inkOf (Tree.tokensOf trees)
      ∧ (inkOf (Tree.tokensOf trees)
          ≤ ink ((trees.filter Tree.isNamed).flatMap fun tree => (declaration tree).toList) →
        ∀ tree ∈ trees, Solid tree ∧ ink (declaration tree).toList = inkOf tree.tokens) := by
  induction trees with
  | nil => simp
  | cons tree rest ih =>
      obtain ⟨bound, whole⟩ := ih (fun other member => top other (by simp [member]))
        (fun other member => formed other (by simp [member]))
        (fun token member => cut token (by simp [member]))
        fun token member => spaced token (by simp [member])
      have ownCut : ∀ token ∈ tree.tokens, IsCut token :=
        fun token member => cut token (by simp [member])
      have ownSpaced : ∀ token ∈ tree.tokens, Spaced token :=
        fun token member => spaced token (by simp [member])
      rw [inkOf_tokensOf]
      rcases top tree List.mem_cons_self with solid | ⟨token, rfl⟩
      · have plain := plain_of_spaced ownCut ownSpaced
        have twins : Twins tree tree := ⟨rfl, formed tree List.mem_cons_self, ownCut, plain, plain⟩
        have own : ink (declaration tree).toList ≤ inkOf tree.tokens := by
          simpa using (relaid_declaration twins).ink_le (by simpa using ownSpaced)
        simp only [List.filter_cons_of_pos solid.named, List.flatMap_cons, ink_append]
        refine ⟨by omega, fun enough => ?_⟩
        simp only [List.forall_mem_cons]
        exact ⟨⟨solid, by omega⟩, whole (by omega)⟩
      -- punctuation between declarations is not printed, and its ink is missing
      · have some := (ownCut token (by simp)).opens.ink_pos
        simp only [Tree.tokens, inkOf_cons, inkOf_nil]
        rw [List.filter_cons_of_neg (by simp [Tree.isNamed, Tree.kind])]
        exact ⟨by omega, fun enough => by omega⟩

/-- A declaration that was laid out after line feeds and is read again from there. -/
theorem declaration_fixed {tree tree' : Tree} (twins : Twins tree tree') (solid : Solid tree)
    (amount : ink (declaration tree).toList = inkOf tree.tokens)
    (spaced : ∀ token ∈ tree.tokens, Spaced token) (spaced' : ∀ token ∈ tree'.tokens, Spaced token)
    (cut' : ∀ token ∈ tree'.tokens, IsCut token) {count : Nat} {rest rest' : List Char}
    (source : List.replicate count '\n' ++ ((declaration tree).toList ++ rest) =
      chars tree'.tokens ++ rest') :
    (Gap.textOf tree'.lead).toList = List.replicate count '\n'
      ∧ declaration tree' = declaration tree ∧ rest = rest' := by
  have relaid := relaid_declaration twins
  have some' : tree'.tokens ≠ [] := fun none => solid.tokens ((isEmpty_of_unspaced twins.same).1 none)
  have opens := declaration_opens twins.cut solid.tokens
  have some := opens.ne_empty
  have lead : White (Gap.textOf tree'.lead).toList := by
    unfold Tree.lead
    cases tokens : tree'.tokens with
    | nil => exact absurd tokens some'
    | cons token others => exact spaced' token (by simp [tokens])
  have feeds : White (List.replicate count '\n') := white_replicate (by decide) count
  rw [chars_tree some', List.append_assoc] at source
  -- the line feeds are all the white space before the declaration
  obtain ⟨before, after⟩ := white_unique feeds lead (opens.append _)
    ((opens_body cut' some').append _) source
  have text : (declaration tree).toList = body tree'.tokens := by
    refine closes_unique (relaid.closes (by simpa using twins.cut) some) (closes_body cut' some') ?_
      after
    rw [amount, ink_body spaced', inkOf_unspaced twins.same]
  refine ⟨before, ?_, ?_⟩
  · refine relaid.fixed (by simpa using spaced) (by simpa using spaced') (by simpa using cut')
      white_nil white_nil white_nil ?_
    simpa using text
  · rw [text] at after
    exact List.append_cancel_left after

theorem chained_fixed {before before' : Tree} (opener_eq : opener before' = opener before)
    {trees trees' : List Tree} (twins : TwinLists trees trees')
    (whole : ∀ tree ∈ trees, Solid tree ∧ ink (declaration tree).toList = inkOf tree.tokens)
    (spaced : ∀ token ∈ Tree.tokensOf trees, Spaced token)
    (spaced' : ∀ token ∈ Tree.tokensOf trees', Spaced token)
    (cut' : ∀ token ∈ Tree.tokensOf trees', IsCut token) {after after' : List Char}
    (source : (chained before trees).toList ++ after = chars (Tree.tokensOf trees') ++ after') :
    chained before' trees' = chained before trees := by
  induction twins generalizing before before' with
  | nil => rfl
  | @cons tree tree' rest rest' here later ih =>
      obtain ⟨solid, amount⟩ := whole tree List.mem_cons_self
      simp only [chained, String.toList_append, String.toList_ofList, List.append_assoc,
        Tree.tokensOf, Written.chars_append] at source
      obtain ⟨lead, same, after⟩ := declaration_fixed here solid amount
        (fun token member => spaced token (by simp [member]))
        (fun token member => spaced' token (by simp [member]))
        (fun token member => cut' token (by simp [member])) source
      have openers : opener tree' = opener tree := by rw [opener, opener, here.kind_eq]
      have apart_eq : apart before' tree' = apart before tree := by
        -- between the two stand as many line feeds as were put there, one or two
        have count : feeds tree' = apart before tree := by
          rw [feeds, lead, List.count_replicate_self]
        rw [apart, openers, opener_eq, count, apart]
        split <;> omega
      have chain := ih openers (fun other member => whole other (by simp [member]))
        (fun token member => spaced token (by simp [member]))
        (fun token member => spaced' token (by simp [member]))
        (fun token member => cut' token (by simp [member])) after
      rw [chained, chained, apart_eq, same, chain]

theorem file_empty {gaps : List Gap} (none : gaps.filterMap Gap.comment? = []) :
    file ⟨[], gaps⟩ = "" := by
  simp [file, Source.placed, Source.placeTrees, placeGaps_plain none, breaks, joinWith]

/-! Whole files. -/

section Files

variable {text : String} {source again : Source}

theorem plain_trees (cut : ∀ token ∈ Tree.tokensOf source.trees, IsCut token)
    (spaced : ∀ token ∈ Tree.tokensOf source.trees, Spaced token) :
    ∀ tree ∈ source.trees, Plain tree := by
  intro tree member
  refine plain_of_spaced (fun token inside => ?_) fun token inside => ?_
  · exact cut token (mem_tokensOf.2 ⟨tree, member, inside⟩)
  · exact spaced token (mem_tokensOf.2 ⟨tree, member, inside⟩)

variable (read : Source.parse? text = some source) (uncommented : Uncommented source)
  (reread : Source.parse? (file source) = some again)
  (same : again.trees.map unspaced = source.trees.map unspaced)

include read uncommented reread same

/-- If a file is laid out and read again as the same trees, then all its ink is in its tokens. -/
theorem file_whole :
    (∀ tree ∈ source.trees, Solid tree ∧ ink (declaration tree).toList = inkOf tree.tokens)
      ∧ Uncommented again := by
  obtain ⟨-, cut, inked⟩ := parse_lossless read
  obtain ⟨written, -⟩ := parse_lossless reread
  have trailing := comments_none inked uncommented.trailing
  obtain ⟨bound, whole⟩ :=
    ink_declarations (parse_top read) (parse_wellFormed read) cut uncommented.tokens
  -- the ink of the declarations on the one side, of the tokens and of what is between on the other
  have amount := ink_file (plain_trees cut uncommented.tokens) trailing
  rw [Source.declarations, written, Written.writtenOf, String.toList_append, Written.toList_written,
    ink_append] at amount
  have least := inkOf_le (Tree.tokensOf again.trees)
  have tokens := inkOf_unspacedAll same
  exact ⟨whole (by omega), spaced_of_ink (by omega), ink_eq_zero.1 (by omega)⟩

/-- Such a file is laid out as it is. -/
theorem file_fixed : file again = file source := by
  obtain ⟨whole, uncommented'⟩ := file_whole read uncommented reread same
  obtain ⟨-, cut, inked⟩ := parse_lossless read
  obtain ⟨written, cut', inked'⟩ := parse_lossless reread
  have plain := plain_trees cut uncommented.tokens
  have plain' := plain_trees cut' uncommented'.tokens
  have twins := twinLists same (parse_wellFormed read) cut
    (fun token member => comments_none (cut token member).lead (uncommented.tokens token member))
    fun token member => comments_none (cut' token member).lead (uncommented'.tokens token member)
  have trailing := comments_none inked uncommented.trailing
  have trailing' := comments_none inked' uncommented'.trailing
  obtain ⟨trees, gaps⟩ := source
  obtain ⟨trees', gaps'⟩ := again
  cases twins with
  | nil => rw [file_empty trailing, file_empty trailing']
  | @cons tree tree' rest rest' here later =>
      obtain ⟨solid, amount⟩ := whole tree List.mem_cons_self
      have named' := twins_forall (fun twins named => twins.isNamed_eq.trans named) (.cons here later)
        fun other member => (whole other member).1.named
      have bare : ∀ other ∈ tree :: rest, Bare other :=
        fun other member => ⟨(whole other member).1.named, lead_plain (plain other member)⟩
      have bare' : ∀ other ∈ tree' :: rest', Bare other :=
        fun other member => ⟨named' other member, lead_plain (plain' other member)⟩
      have some : declaration tree ≠ "" := (declaration_opens here.cut solid.tokens).ne_empty
      rw [file_bare rfl bare trailing some] at written ⊢
      have text : List.replicate 0 '\n'
          ++ ((declaration tree).toList ++ ((chained tree rest).toList ++ ['\n'])) =
            chars tree'.tokens ++ (chars (Tree.tokensOf rest') ++ (Gap.textOf gaps').toList) := by
        have both := congrArg String.toList written
        simp only [Written.writtenOf, String.toList_append, Written.toList_written, Tree.tokensOf,
          Written.chars_append, List.append_assoc] at both
        simpa using both
      obtain ⟨-, first, after⟩ := declaration_fixed here solid amount
        (fun token member => uncommented.tokens token (by simp [member]))
        (fun token member => uncommented'.tokens token (by simp [member]))
        (fun token member => cut' token (by simp [member])) text
      have openers : opener tree' = opener tree := by rw [opener, opener, here.kind_eq]
      have chain := chained_fixed openers later
        (fun other member => whole other (List.mem_cons_of_mem _ member))
        (fun token member => uncommented.tokens token (by simp [member]))
        (fun token member => uncommented'.tokens token (by simp [member]))
        (fun token member => cut' token (by simp [member])) after
      rw [file_bare rfl bare' trailing' (by rwa [first]), first, chain]

end Files

end InterfaceMocks.Layout

namespace InterfaceMocks

open InterfaceMocks.Grammar (Source)
open InterfaceMocks.Text (contains replaceAll)
open InterfaceMocks.Layout (Uncommented unspaced)

/-! Texts without an unrecognised type. -/

theorem protect_of_known {text : String} (known : contains text TypeExpr.unrecognisedText = false)
    (placeholder : String) : Placeholder.protect placeholder text = text := by
  rw [Placeholder.protect, replaceAll, Text.Replace.replaceFrom_of_absent known, String.ofList_toList]

theorem restore_of_absent {text placeholder : String} (absent : contains text placeholder = false) :
    Placeholder.restore placeholder text = text := by
  rw [Placeholder.restore, replaceAll, Text.Replace.replaceFrom_of_absent absent, String.ofList_toList]

theorem restore_of_known {text placeholder : String} (some : placeholder.toList ≠ [])
    (known : contains (Placeholder.restore placeholder text) TypeExpr.unrecognisedText = false) :
    Placeholder.restore placeholder text = text := by
  have absent : contains text placeholder = false := by
    cases found : contains text placeholder with
    | false => rfl
    | true =>
        rw [contains, Placeholder.restore, replaceAll, String.toList_ofList,
          Text.Replace.occurs_replaceFrom some found] at known
        exact absurd known (by simp)
  exact restore_of_absent absent

/-- The form of a text is the layout of its source, where neither has an unrecognised type. -/
theorem format_eq {text formatted : String} {source : Source}
    (known : contains text TypeExpr.unrecognisedText = false)
    (known' : contains formatted TypeExpr.unrecognisedText = false)
    (read : Source.parse? text = some source) (formats : format? text = some formatted) :
    formatted = Layout.file source := by
  obtain ⟨n, chosen, -⟩ := Placeholder.choose_fresh text
  obtain ⟨more, start⟩ := Placeholder.candidate_start n
  rw [format?, protect_of_known known, read, chosen] at formats
  obtain rfl := Option.some.inj formats
  exact restore_of_known (by simp [start]) known'

/-- A text without comments whose formatted text is read as the same trees, white space apart, is
settled after formatting it once. -/
theorem format_settled {text formatted : String} {source again : Source}
    (known : contains text TypeExpr.unrecognisedText = false)
    (known' : contains formatted TypeExpr.unrecognisedText = false)
    (read : Source.parse? text = some source) (uncommented : Uncommented source)
    (formats : format? text = some formatted) (reread : Source.parse? formatted = some again)
    (same : again.trees.map unspaced = source.trees.map unspaced) :
    format? formatted = some formatted := by
  obtain rfl := format_eq known known' read formats
  have fixed := Layout.file_fixed read uncommented reread same
  obtain ⟨n, chosen, absent⟩ := Placeholder.choose_fresh (Layout.file source)
  rw [format?, protect_of_known known', reread, chosen, Option.map_some, fixed,
    restore_of_absent absent]

/-- A struct in loose spacing, and in its own. -/
def looseStruct : String := "package  p\n\n\ntype  Box struct \x7b\nx   int\nlonger *T\n\x7d\n"

def tidyStruct : String := "package p\n\ntype Box struct \x7b\n\tx      int\n\tlonger *T\n\x7d\n"

theorem format_settled_struct :
    format? looseStruct = some tidyStruct ∧ format? tidyStruct = some tidyStruct := by
  have formats : format? looseStruct = some tidyStruct := by decide +kernel
  have both : ((Source.parse? looseStruct).any fun source => (Source.parse? tidyStruct).any fun again =>
      decide (Uncommented source) && decide (again.trees.map unspaced = source.trees.map unspaced))
        = true := by
    decide +kernel
  obtain ⟨source, read, rest⟩ := (Option.any_eq_true _ _).1 both
  obtain ⟨again, reread, holds⟩ := (Option.any_eq_true _ _).1 rest
  obtain ⟨uncommented, same⟩ := Bool.and_eq_true_iff.1 holds
  exact ⟨formats, format_settled (by decide +kernel) (by decide +kernel) read
    (of_decide_eq_true uncommented) formats reread (of_decide_eq_true same)⟩

/-- The result of a function in parentheses, twice. -/
def doubledResult : String := "package p\n\ntype A func() ((int))\n"

/-- Variables in a group. -/
def groupedVariables : String := "package p\n\nvar (\n\ta = 1\n\tb = 2\n)\n"

/-- A lone result loses one pair of parentheses each time, and a group that is kept as it is written
is joined to one line, which cannot be read again. -/
theorem format_unsettled :
    format? doubledResult = some "package p\n\ntype A func() (int)\n"
      ∧ format? "package p\n\ntype A func() (int)\n" = some "package p\n\ntype A func() int\n"
      ∧ format? groupedVariables = some "package p\n\nvar ( a = 1 b = 2 )\n"
      ∧ format? "package p\n\nvar ( a = 1 b = 2 )\n" = none := by
  refine ⟨?_, ?_, ?_, ?_⟩ <;> decide +kernel

end InterfaceMocks
