import InterfaceMocks.Proofs.Preservation.Distinct
import InterfaceMocks.Proofs.Preservation.Files

/-!
What is laid out is laid out as it stands. It is read as the declarations that it was laid out for,
since no others have the same tree, and these stand as far apart as they were set. So a source that
is made of what is laid out anew is formatted once and for all.
-/

namespace InterfaceMocks.Preservation

open InterfaceMocks.Syntax InterfaceMocks.Grammar InterfaceMocks.Written
open InterfaceMocks.Layout (Bare rowsBetween unspaced)

section Stacks

variable {declarations others : List Declaration} {counts : List Nat} {space : String}

/-- Declarations that are laid out as others stand are these. -/
theorem declarations_eq (sound : ∀ one ∈ declarations, one.Sound) (sound' : ∀ one ∈ others, one.Sound)
    (lay : List.Forall₂ Declaration.Lays others (stacked space counts declarations)) :
    others = declarations := by
  induction declarations generalizing others space counts with
  | nil => exact List.forall₂_nil_right_iff.1 lay
  | cons declaration declarations ih =>
      rw [stacked] at lay
      simp only [List.forall_mem_cons] at sound
      cases lay with
      | @cons other _ others _ first rest =>
          simp only [List.forall_mem_cons] at sound'
          have same := first.same ""
          rw [(Declaration.tidy sound.1 space).settled_eq (declaration.firm space),
            (Declaration.tidy sound'.1 "").settled_eq (other.firm "")] at same
          rw [declaration_distinct same, ih sound.2 sound'.2 rest]

theorem Declaration.lead_tree (declaration : Declaration) (space : String) :
    (declaration.tree space).lead = gap space := by
  obtain ⟨word, -, rest, same⟩ := declaration.start space
  rw [Tree.lead, same]
  rfl

theorem Declaration.bare (declaration : Declaration) (space : String) :
    Bare (declaration.tree space) :=
  ⟨(declaration.firm space).named, by rw [declaration.lead_tree, gap_comments]⟩

theorem named_stacked (space : String) (counts : List Nat) (declarations : List Declaration) :
    ∀ tree ∈ stacked space counts declarations, tree.isNamed = true := by
  induction declarations generalizing space counts with
  | nil => simp [stacked]
  | cons declaration rest ih =>
      exact List.forall_mem_cons.2 ⟨(declaration.firm space).named, ih _ _⟩

/-- Declarations stand as many rows apart as there are line feeds between them. -/
theorem rowsBetween_stacked (enough : counts.length = declarations.length - 1) (position : Position)
    (space : String) :
    rowsBetween ((Source.placeTrees position (stacked space counts declarations)).1.map Layout.span) =
      counts := by
  induction declarations generalizing counts position space with
  | nil =>
      obtain rfl : counts = [] := by simpa using enough
      rfl
  | cons declaration rest ih =>
      rw [stacked, Layout.placeTrees_bare (declaration.bare space)]
      generalize (position.advance (Gap.textOf (declaration.tree space).lead)).advance
        (declaration.tree space).text = stop
      cases rest with
      | nil =>
          obtain rfl : counts = [] := by simpa using enough
          rfl
      | cons next rest =>
          cases counts with
          | nil => simp at enough
          | cons count counts =>
              have later := @ih counts (by simpa using enough) stop (feeds count)
              have row := Layout.advance_row stop (feeds count)
              rw [stacked, Layout.placeTrees_bare (next.bare _)] at later
              rw [List.headD_cons, List.tail_cons, stacked, Layout.placeTrees_bare (next.bare _)]
              simp only [List.map_cons] at later ⊢
              rw [rowsBetween, later]
              simp [Layout.span, next.lead_tree, gap_text, row]
              simp [feeds]

end Stacks

theorem kinds_placed {source : Source} (uncommented : isUncommented source = true) :
    (source.placed.map Layout.span).map Layout.Span.kind =
      (source.declarations.map Tree.kind).map some := by
  obtain ⟨plain, trailing⟩ := plain_of_uncommented uncommented
  have kinds := congrArg (List.map Item.kind?) (Layout.placed_items plain trailing)
  simpa [Function.comp_def, Layout.span, Item.kind?] using kinds

namespace LaidOut

variable {text : String} {source : Source} {declarations : List Declaration}
  (laidOut : LaidOut source declarations)

include laidOut

theorem isUncommented : isUncommented (relaid source declarations) = true := by
  have each : ∀ token ∈ Tree.tokensOf (relaid source declarations).trees,
      token.lead.filterMap Gap.comment? = [] := by
    intro token member
    obtain ⟨rest, stands⟩ := lexes_stands laidOut.lexes member
    obtain ⟨space, lead, -⟩ := stands.lead
    rw [lead, gap_comments]
  have trailing : (relaid source declarations).trailing.filterMap Gap.comment? = [] := gap_comments _
  simpa [Preservation.isUncommented, trailing] using each

omit laidOut in
theorem declarations_relaid :
    (relaid source declarations).declarations = (relaid source declarations).trees :=
  List.filter_eq_self.2 (named_stacked _ _ _)

/-- What is laid out is laid out for the same declarations. -/
theorem again : LaidOut (relaid source declarations) declarations := by
  have tidy := laidOut.tidy
  have laid : isLaid (relaid source declarations) = true := by
    rw [isLaid, declarations_relaid, List.all_eq_true]
    intro tree member
    have kind := tidy.kinds tree member (named_stacked _ _ _ tree member)
    simp [kind, tidy.built tree member]
  have spare : isSpare (relaid source declarations) = true := by
    rw [isSpare, declarations_relaid]
    exact List.all_eq_true.2 tidy.spared
  obtain ⟨others, laidOut'⟩ := source_laidOut laidOut.reread laidOut.isUncommented laid spare
  have lay := laidOut'.lay
  rw [declarations_relaid] at lay
  obtain rfl := declarations_eq laidOut.sound laidOut'.sound lay
  exact laidOut'

theorem kinds_relaid :
    (relaid source declarations).declarations.map Tree.kind = source.declarations.map Tree.kind := by
  have kept := laidOut.tidy.kept []
  have settles := settled_stacked laidOut.lay (feedsOf source) ""
  rw [List.append_nil, settledAll, List.append_nil] at kept
  have same := congrArg (List.map Tree.kind) (kept.symm.trans settles)
  rw [declarations_relaid]
  simpa [Function.comp_def] using same

/-- The declarations of what is laid out stand as far apart as they were set. -/
theorem feedsOf_relaid (uncommented : Preservation.isUncommented source = true) :
    feedsOf (relaid source declarations) = feedsOf source := by
  obtain ⟨-, trailing⟩ := plain_of_uncommented laidOut.isUncommented
  have enough : (feedsOf source).length = declarations.length - 1 := by
    rw [length_feedsOf uncommented, laidOut.lay.length_eq]
  refine Layout.breaks_again ?_ ?_
  · rw [kinds_placed laidOut.isUncommented, kinds_placed uncommented, laidOut.kinds_relaid]
  · rw [← feedsOf, Source.placed, Layout.placeGaps_plain trailing, List.append_nil]
    exact rowsBetween_stacked enough .start ""

theorem file_relaid (uncommented : Preservation.isUncommented source = true) :
    Layout.file (relaid source declarations) = Layout.file source := by
  have trees : (relaid (relaid source declarations) declarations).trees =
      (relaid source declarations).trees :=
    congrArg (stacked "" · declarations) (laidOut.feedsOf_relaid uncommented)
  rw [laidOut.again.file, laidOut.file, trees]

/-- No token of what is laid out goes on as an unrecognised type. -/
theorem guarded : ∀ token ∈ Tree.tokensOf (relaid source declarations).trees, Guarded token := by
  intro token member
  obtain ⟨rest, stands⟩ := lexes_stands laidOut.lexes member
  obtain ⟨space, lead, blank⟩ := stands.lead
  refine ⟨by rw [lead, gap_text]; exact clear_of_blank blank, ?_⟩
  by_cases string : token.lexeme = .quoted ∨ token.lexeme = .raw
  · exact .inr (.inr ((parse_spelled laidOut.reread token member).closed string))
  · exact .inr (.inl (laidOut.tidy.clear token member (by simpa using string)))

theorem protect (read : Source.parse? text = some source)
    (known : Text.contains text TypeExpr.unrecognisedText = false) (placeholder : String) :
    Placeholder.protect placeholder (Layout.file source) = Layout.file source := by
  have plain : '<' ∉ (ending declarations).toList := clear_of_blank (blank_ending declarations)
  have same : (Tree.tokensOf (relaid source declarations).trees).map (fill placeholder) =
      Tree.tokensOf (relaid source declarations).trees := by
    have each : ∀ token ∈ Tree.tokensOf (relaid source declarations).trees,
        fill placeholder token = token := fun token member => by
      rw [fill, protect_of_known (laidOut.absent read known token member)]
    exact (List.map_congr_left each).trans (List.map_id' _)
  rw [laidOut.file, writtenOf, protect_written laidOut.guarded placeholder plain, same]

end LaidOut

end InterfaceMocks.Preservation

namespace InterfaceMocks

open InterfaceMocks.Grammar (Source)
open InterfaceMocks.Preservation

/-- Formatting is idempotent on what it lays out: a source without comments that is made of such
declarations is formatted as a text that is formatted as itself. -/
theorem format_idempotent {text : String} {source : Source} (read : Source.parse? text = some source)
    (uncommented : isUncommented source = true) (laid : isLaid source = true)
    (spare : isSpare source = true)
    (known : Text.contains text TypeExpr.unrecognisedText = false) :
    ∃ formatted, format? text = some formatted ∧ format? formatted = some formatted := by
  obtain ⟨declarations, laidOut⟩ := source_laidOut read uncommented laid spare
  refine ⟨Layout.file source, laidOut.format read known, ?_⟩
  obtain ⟨n, chosen, absent⟩ := Placeholder.choose_fresh (Layout.file source)
  rw [format?, chosen, laidOut.protect read known, laidOut.reread, Option.map_some,
    laidOut.file_relaid uncommented, restore_of_absent absent]

/-- Without its terminators, its last comma and the parentheses of its result, nothing is left to be
left out. -/
example :
    let loose := "package p;func f(a,b int,)([]T)\x7breturn(a.x)(1,)\x7d"
    let tidy := "package p\n\nfunc f(a, b int) []T \x7b\n\treturn (a.x)(1)\n\x7d\n"
    format? loose = some tidy ∧ format? tidy = some tidy := by
  decide +kernel

end InterfaceMocks
