import InterfaceMocks.Proofs.Layout.Spacing
import InterfaceMocks.Proofs.Preservation.DeclarationLayouts
import InterfaceMocks.Proofs.Preservation.Spelling
import InterfaceMocks.Proofs.Preservation.Tidy
import InterfaceMocks.Proofs.Written.Protected

/-!
Whole files. The declarations of a source are laid out one below the other, and what is laid out is
read back as declarations that settle the same.
-/

namespace InterfaceMocks.Preservation

open InterfaceMocks.Syntax InterfaceMocks.Grammar InterfaceMocks.Written
open InterfaceMocks.Layout (joinWith)

def feeds (count : Nat) : String := String.ofList (List.replicate count '\n')

/-- Declarations one below the other, with so many line feeds between each two. -/
def stacked (space : String) : List Nat → List Declaration → List Tree
  | _, [] => []
  | counts, declaration :: rest =>
      declaration.tree space :: stacked (feeds (counts.headD 0)) counts.tail rest

section Stacks

variable {declarations : List Declaration} {items : List Tree} {counts : List Nat} {space : String}

theorem blank_feeds (count : Nat) : Blank (feeds count) := by
  simp [Blank, feeds, Lexer.isSpace]

theorem apart_feeds {count : Nat} (some : 1 ≤ count) : Apart (feeds count) where
  blank := blank_feeds count
  some := by
    intro empty
    have := congrArg (fun text => text.toList.length) empty
    simp [feeds] at this
    omega

theorem breaks_feeds {count : Nat} (some : 1 ≤ count) : breaks (feeds count) = true := by
  simp [breaks, feeds]
  omega

/-- A declaration starts with its keyword. -/
theorem Declaration.start (declaration : Declaration) (space : String) :
    ∃ word ∈ ["package", "import", "type", "func"], ∃ rest,
      (declaration.tree space).tokens = token space .word word :: rest := by
  cases declaration with
  | function receiver => cases receiver <;> exact ⟨"func", by simp, _, rfl⟩
  | package => exact ⟨"package", by simp, _, rfl⟩
  | «import» => exact ⟨"import", by simp, _, rfl⟩
  | imports => exact ⟨"import", by simp, _, rfl⟩
  | type => exact ⟨"type", by simp, _, rfl⟩
  | types => exact ⟨"type", by simp, _, rfl⟩

theorem written_stacked (lay : List.Forall₂ Declaration.Lays declarations items)
    (some : declarations ≠ []) (counts : List Nat) (space : String) :
    writtenOf (stacked space counts declarations) =
      space ++ joinWith counts (items.map Layout.declaration) := by
  induction lay generalizing counts space with
  | nil => simp at some
  | @cons declaration item declarations items first others ih =>
      rw [stacked, writtenOf_cons, first.text]
      cases others with
      | nil => cases counts <;> simp [stacked, joinWith]
      | cons second others =>
          rw [ih (by simp)]
          cases counts <;> simp [joinWith, feeds, String.append_assoc]

theorem settled_stacked (lay : List.Forall₂ Declaration.Lays declarations items)
    (counts : List Nat) (space : String) :
    settledAll (stacked space counts declarations) = items.map settled := by
  induction lay generalizing counts space with
  | nil => rfl
  | cons first others ih =>
      rw [stacked, (first.firm space).settled, first.same, ih, List.map_cons]

theorem stacked_ne (first : Declaration) (rest : List Declaration) (counts : List Nat) :
    writtenOf (stacked "" counts (first :: rest)) ≠ "" := by
  intro empty
  have none := congrArg String.toList empty
  obtain ⟨word, keyword, more, same⟩ := first.start ""
  rw [writtenOf, toList_written, stacked, Tree.tokensOf, same] at none
  simp only [List.mem_cons, List.not_mem_nil, or_false] at keyword
  rcases keyword with rfl | rfl | rfl | rfl <;> simp [chars, Token.source] at none

theorem tidy_stacked (sound : ∀ one ∈ declarations, one.Sound) (space : String) (counts : List Nat) :
    Tidy declarationKinds (stacked space counts declarations) := by
  induction declarations generalizing space counts with
  | nil => exact tidy_nil
  | cons declaration rest ih =>
      simp only [List.forall_mem_cons] at sound
      exact (Declaration.tidy sound.1 space).cons (ih sound.2 _ _)

/-- Declarations that come after others start a line each. -/
theorem mem_stacked {count : Nat} (some : 1 ≤ count) (each : ∀ count ∈ counts, 1 ≤ count)
    (enough : declarations.length ≤ counts.length + 1) :
    ∀ tree ∈ stacked (feeds count) counts declarations,
      ∃ declaration ∈ declarations, ∃ count, 1 ≤ count ∧ tree = declaration.tree (feeds count) := by
  induction declarations generalizing count counts with
  | nil => simp [stacked]
  | cons declaration rest ih =>
      intro tree member
      rcases List.mem_cons.1 member with rfl | member
      · exact ⟨declaration, List.mem_cons_self, count, some, rfl⟩
      · cases counts with
        | nil =>
            obtain rfl : rest = [] := by simpa using enough
            simp [stacked] at member
        | cons next counts =>
            simp only [List.forall_mem_cons] at each
            obtain ⟨other, among, found⟩ := ih each.1 each.2 (by simpa using enough) tree member
            exact ⟨other, List.mem_cons_of_mem _ among, found⟩

/-- Declarations one below the other are cut into their tokens and read back. -/
theorem parse_stacked (some : declarations ≠ []) (sound : ∀ one ∈ declarations, one.Sound)
    (each : ∀ count ∈ counts, 1 ≤ count) (enough : declarations.length ≤ counts.length + 1) :
    Lexes (Tree.tokensOf (stacked "" counts declarations)) "\n".toList
      ∧ Source.parse? (writtenOf (stacked "" counts declarations) ++ "\n") =
        .some ⟨stacked "" counts declarations, gap "\n"⟩ := by
  obtain ⟨first, rest, rfl⟩ := List.exists_cons_of_ne_nil some
  simp only [List.forall_mem_cons] at sound
  have below : ∀ tree ∈ stacked (feeds (counts.headD 0)) counts.tail rest,
      ∃ declaration ∈ rest, ∃ count, 1 ≤ count ∧ tree = declaration.tree (feeds count) := by
    cases counts with
    | nil =>
        obtain rfl : rest = [] := by simpa using enough
        simp [stacked]
    | cons count counts =>
        simp only [List.forall_mem_cons] at each
        exact mem_stacked each.1 each.2 (by simpa using enough)
  -- of the declarations below the first, no more is used than that each starts a line
  rw [stacked]
  generalize stacked (feeds (counts.headD 0)) counts.tail rest = others at below
  have later : Fresh (chars (Tree.tokensOf others ++ []) ++ "\n".toList)
      ∧ Lexes (Tree.tokensOf others ++ []) "\n".toList := by
    refine lines_lex (fresh_of_blank blank_line) trivial (fun tree member rest => ?_)
      fun tree member rest fresh later => ?_
    · obtain ⟨declaration, -, count, one, rfl⟩ := below tree member
      obtain ⟨word, -, more, same⟩ := declaration.start (feeds count)
      rw [same]
      exact (apart_feeds one).fresh _ _
    · obtain ⟨declaration, among, count, one, rfl⟩ := below tree member
      exact Declaration.spells (sound.2 declaration among) (blank_feeds count) _ _ fresh later
  have lexes : Lexes (Tree.tokensOf (first.tree "" :: others)) "\n".toList := by
    have whole := @Declaration.spells "" first sound.1 (by decide) _ _ later.1 later.2
    simpa using whole
  refine ⟨lexes, Source.parse_eq_some_iff.2
    ⟨_, ⟨[], false⟩, tokenize_written blank_line lexes ?_, reading_source ?_ ?_, rfl⟩⟩
  · obtain ⟨word, keyword, more, same⟩ := first.start ""
    rw [Tree.tokensOf, same]
    simp only [List.mem_cons, List.not_mem_nil, or_false] at keyword
    rcases keyword with rfl | rfl | rfl | rfl <;> simp [chars, Token.source, Gap.textOf] <;> decide
  · intro tree member
    rcases List.mem_cons.1 member with rfl | member
    · exact Declaration.reads sound.1 ""
    · obtain ⟨declaration, among, count, -, rfl⟩ := below tree member
      exact Declaration.reads (sound.2 declaration among) _
  · intro tree member tail
    obtain ⟨declaration, -, count, one, rfl⟩ := below tree member
    obtain ⟨word, -, more, same⟩ := declaration.start (feeds count)
    rw [same]
    exact startsLine_token (breaks_feeds one) _ _

end Stacks

/-! The declarations of a source. -/

section Sources

variable {text : String} {source : Source} {declarations : List Declaration}

theorem parse_given (read : Source.parse? text = some source) :
    Given [] Statements.source source.trees := by
  obtain ⟨tokens, rest, lexed, found, -⟩ := Source.parse_eq_some_iff.1 read
  exact ⟨_, _, _, rfl, tokenize_lexed lexed, found⟩

/-- What stands at the top of a source is named, or it ends something. -/
theorem DeclarationForm.named {tree : Tree} (form : DeclarationForm tree)
    (top : Solid tree ∨ ∃ token, tree = .leaf .mark .plain token) : tree.isNamed = true := by
  rcases top with solid | ⟨token, rfl⟩
  · exact solid.named
  · cases form with
    | other foreign => simp [Tree.kind] at foreign

theorem plain_of_uncommented (uncommented : isUncommented source = true) :
    (∀ tree ∈ source.trees, Layout.Plain tree) ∧ source.trailing.filterMap Gap.comment? = [] := by
  simp only [isUncommented, Bool.and_eq_true, List.all_eq_true, List.isEmpty_iff] at uncommented
  exact ⟨fun tree member token inside =>
    uncommented.1 token (mem_tokensOf.2 ⟨tree, member, inside⟩), uncommented.2⟩

/-- Each declaration of a source is recognised. -/
theorem source_lays (read : Source.parse? text = some source)
    (uncommented : isUncommented source = true) (laid : isLaid source = true)
    (spare : isSpare source = true) :
    ∃ declarations : List Declaration, (∀ one ∈ declarations, one.Sound)
      ∧ Lined source.declarations source.trees
      ∧ List.Forall₂ Declaration.Lays declarations source.declarations := by
  obtain ⟨items, lined, forms⟩ := given_source (parse_given read)
  have spelled := parse_spelled read
  have plain := (plain_of_uncommented uncommented).1
  have named : ∀ item ∈ items, item.isNamed = true := fun item member =>
    (forms item member).named (parse_top read item (lined.subset item member))
  obtain rfl : source.declarations = items := lined.filter named fun _ => unnamed_of_mark
  obtain ⟨declarations, sound, lay⟩ := @listing_of Declaration Declaration.tree Layout.declaration
    source.declarations Declaration.Sound fun item member => by
      have inside := lined.subset item member
      simp only [isLaid, isSpare, List.all_eq_true, Bool.and_eq_true] at laid spare
      exact declaration_lays (forms item member) (by simpa using (laid item member).1)
        ⟨(laid item member).2, spare item member, plain item inside,
          fun token among => spelled token (mem_tokensOf.2 ⟨item, inside, among⟩)⟩
  exact ⟨declarations, sound, lined, lay⟩

theorem length_breaks (spans : List Layout.Span) :
    (Layout.breaks spans).length = spans.length - 1 := by
  induction spans with
  | nil => rfl
  | cons first rest ih =>
      cases rest with
      | nil => rfl
      | cons second rest => simpa [Layout.breaks] using ih

/-- The line feeds that a source is laid out with, one count for each two neighbours. -/
def feedsOf (source : Source) : List Nat := Layout.breaks (source.placed.map Layout.span)

theorem feedsOf_some (source : Source) : ∀ count ∈ feedsOf source, 1 ≤ count := fun count member => by
  have := Layout.breaks_range _ count member
  omega

theorem length_feedsOf (uncommented : isUncommented source = true) :
    (feedsOf source).length = source.declarations.length - 1 := by
  obtain ⟨plain, trailing⟩ := plain_of_uncommented uncommented
  have items := congrArg List.length (Layout.placed_items plain trailing)
  simp only [List.length_map] at items
  rw [feedsOf, length_breaks, List.length_map, items]

def ending (declarations : List Declaration) : String := if declarations.isEmpty then "" else "\n"

/-- What is laid out for a source, as a source again. -/
def relaid (source : Source) (declarations : List Declaration) : Source :=
  ⟨stacked "" (feedsOf source) declarations, gap (ending declarations)⟩

/-- A source that is laid out as declarations one below the other, and read back from there. -/
structure LaidOut (source : Source) (declarations : List Declaration) : Prop where
  sound : ∀ one ∈ declarations, one.Sound
  lay : List.Forall₂ Declaration.Lays declarations source.declarations
  lexes : Lexes (Tree.tokensOf (relaid source declarations).trees) (ending declarations).toList
  file : Layout.file source = writtenOf (relaid source declarations).trees ++ ending declarations
  reread : Source.parse? (Layout.file source) = some (relaid source declarations)
  same : settledAll (relaid source declarations).trees = settledAll source.trees

theorem blank_ending (declarations : List Declaration) : Blank (ending declarations) := by
  unfold ending
  split <;> decide

/-- The declarations of a source are laid out with line feeds between each two. -/
theorem file_eq (uncommented : isUncommented source = true)
    (lay : List.Forall₂ Declaration.Lays declarations source.declarations) :
    Layout.file source = writtenOf (relaid source declarations).trees ++ ending declarations := by
  obtain ⟨plain, trailing⟩ := plain_of_uncommented uncommented
  rw [Layout.file, Layout.placed_texts plain trailing]
  cases declarations with
  -- a source without declarations is laid out as nothing, without even a line feed
  | nil =>
      rw [List.forall₂_nil_left_iff.1 lay]
      simp [joinWith, relaid, stacked, ending]
  | cons first rest =>
      have text := written_stacked lay (by simp) (feedsOf source) ""
      have some := stacked_ne first rest (feedsOf source)
      rw [String.empty_append] at text
      rw [← feedsOf, ← text, if_neg some]
      rfl

theorem source_laidOut (read : Source.parse? text = some source)
    (uncommented : isUncommented source = true) (laid : isLaid source = true)
    (spare : isSpare source = true) : ∃ declarations, LaidOut source declarations := by
  obtain ⟨declarations, sound, lined, lay⟩ := source_lays read uncommented laid spare
  have file := file_eq uncommented lay
  have enough : declarations.length ≤ (feedsOf source).length + 1 := by
    rw [lay.length_eq, length_feedsOf uncommented]
    omega
  have parsed : Lexes (Tree.tokensOf (relaid source declarations).trees) (ending declarations).toList
      ∧ Source.parse? (Layout.file source) = some (relaid source declarations) := by
    rw [file]
    cases declarations with
    | nil =>
        exact ⟨trivial, Source.parse_eq_some_iff.2
          ⟨[], ⟨[], false⟩, rfl, @reading_source [] (by simp) (by simp) false [], rfl⟩⟩
    | cons first rest => exact parse_stacked (by simp) sound (feedsOf_some source) enough
  have settles : source.declarations.map settled = settledAll source.trees := by
    have firm : ∀ item ∈ source.declarations, Firm item := Listing.firm lay
    have whole := @settledAll_lined _ _ [] lined firm
    simpa [settledAll] using whole.symm
  exact ⟨declarations, sound, lay, parsed.1, file, parsed.2, (settled_stacked lay _ _).trans settles⟩

end Sources

namespace LaidOut

variable {text : String} {source : Source} {declarations : List Declaration}
  (laidOut : LaidOut source declarations)

include laidOut

theorem tidy : Tidy declarationKinds (relaid source declarations).trees :=
  tidy_stacked laidOut.sound "" (feedsOf source)

/-- No word is laid out that is not in the source. -/
theorem drawn : ∀ token ∈ Tree.tokensOf (relaid source declarations).trees,
    token.text ∈ (Tree.tokensOf source.trees).map Token.text := by
  have kept := laidOut.tidy.kept []
  rw [List.append_nil, laidOut.same, settledAll, List.append_nil] at kept
  intro token member
  refine settledAll_tokens source.trees (Layout.unspacedToken token) ?_
  rw [kept, ← Layout.unspacedAll_eq, Layout.tokensOf_unspaced]
  exact List.mem_map_of_mem member

/-- What does not occur in a source is in no token of what is laid out for it. -/
theorem absent {pattern : String} (read : Source.parse? text = some source)
    (absent : Text.contains text pattern = false) :
    ∀ token ∈ Tree.tokensOf (relaid source declarations).trees,
      Text.contains token.text pattern = false := by
  intro token member
  obtain ⟨other, among, same⟩ := List.mem_map.1 (laidOut.drawn token member)
  rw [(parse_lossless read).text, writtenOf] at absent
  exact same ▸ not_contains_token absent among

theorem format (read : Source.parse? text = some source)
    (known : Text.contains text TypeExpr.unrecognisedText = false) :
    format? text = some (Layout.file source) := by
  obtain ⟨n, chosen, free⟩ := Placeholder.choose_fresh text
  have restored := restore_unheld (blank_ending declarations) laidOut.lexes (laidOut.absent read free)
  rw [← writtenOf, ← laidOut.file] at restored
  rw [format?, protect_of_known known, read, Option.map_some, chosen, restored]

end LaidOut

end InterfaceMocks.Preservation

namespace InterfaceMocks

open InterfaceMocks.Grammar (Source)
open InterfaceMocks.Preservation

/-- Formatting preserves what it lays out: a source without comments that is made of such
declarations is formatted, and its form is read as the same trees, but for terminators, trailing
commas and the parentheses of results that need none. -/
theorem format_preserves {text : String} {source : Source} (read : Source.parse? text = some source)
    (uncommented : isUncommented source = true) (laid : isLaid source = true)
    (spare : isSpare source = true)
    (known : Text.contains text TypeExpr.unrecognisedText = false) :
    ∃ formatted again, format? text = some formatted ∧ Source.parse? formatted = some again
      ∧ settledAll again.trees = settledAll source.trees := by
  obtain ⟨declarations, laidOut⟩ := source_laidOut read uncommented laid spare
  exact ⟨Layout.file source, relaid source declarations, laidOut.format read known, laidOut.reread,
    laidOut.same⟩

/-- A struct and a function on one line, with commas, terminators and parentheses to spare. -/
def looseFile : String :=
  "package p;type A struct\x7bx[3]*T;B\x7d;func f(a,b int,)([]T)\x7breturn(a.x)(1,)\x7d"

def tidyFile : String :=
  "package p\n\ntype A struct \x7b\n\tx [3]*T\n\tB\n\x7d\n\nfunc f(a, b int) []T \x7b\n\treturn (a.x)(1)\n\x7d\n"

theorem format_preserves_looseFile :
    format? looseFile = some tidyFile ∧ ∃ source again, Source.parse? looseFile = some source
      ∧ Source.parse? tidyFile = some again
      ∧ settledAll again.trees = settledAll source.trees := by
  have formats : format? looseFile = some tidyFile := by decide +kernel
  have holds : ((Source.parse? looseFile).any fun source =>
      isUncommented source && isLaid source && isSpare source) = true := by
    decide +kernel
  obtain ⟨source, read, all⟩ := (Option.any_eq_true _ _).1 holds
  simp only [Bool.and_eq_true] at all
  obtain ⟨formatted, again, found, reread, same⟩ :=
    format_preserves read all.1.1 all.1.2 all.2 (by decide +kernel)
  obtain rfl := Option.some.inj (found.symm.trans formats)
  exact ⟨formats, source, again, read, reread, same⟩

/-- Whether a source of what is laid out anew is formatted as a text that is not read as the same. -/
def isAltered (text formatted : String) : Bool :=
  (Source.parse? text).any fun source => isUncommented source && isLaid source
    && decide (format? text = some formatted)
    && (Source.parse? formatted).all fun again =>
      decide (settledAll again.trees ≠ settledAll source.trees)

def embeddedPointer : String := "package p\n\ntype A struct \x7b\n\t*T\n\x7d\n"

/-- An embedded pointer loses its star, a number runs into the dot after it, what is left of a
function type is read as a name and the type that it shares with the name before, and what looks like
a placeholder next to an unrecognised type is taken for one. -/
theorem format_alters :
    isAltered embeddedPointer "package p\n\ntype A struct \x7b\n\tT\n\x7d\n" = true
      ∧ isAltered "func f() \x7b\n\treturn 1 .x\n\x7d\n" "func f() \x7b\n\treturn 1.x\n\x7d\n" = true
      ∧ isAltered "type A func(a, func(b) ())\n" "type A func(a, func(b))\n" = true
      ∧ isAltered "import `_unrecognised<unrecognised>`\n"
        "import `<unrecognised>unrecognised_`\n" = true := by
  refine ⟨?_, ?_, ?_, ?_⟩ <;> decide +kernel

end InterfaceMocks
