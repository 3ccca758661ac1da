import InterfaceMocks.Proofs.Mock.Faithful
import InterfaceMocks.Proofs.Pruning.Qualifiers
import InterfaceMocks.Proofs.Pruning.Substitution

/-!
Pruning a mocks file. What is left is the canonical text of the same mocks with the imports that they
need, and without an import declaration if they need none. So generating, formatting and pruning end
in a file that neither formatting nor pruning changes.
-/

namespace InterfaceMocks

namespace Mock

open InterfaceMocks.Syntax
open InterfaceMocks.Written
open Spacing (canonical)

def Spacing.shifted : Spacing :=
  { canonical with typeKeyword := fun first => if first then "\n\n\n\n" else "\n\n" }

theorem Spacing.shifted_suits : shifted.Suits where
  fits :=
    { canonical_fits with
      typeKeyword := by
        intro first
        cases first with
        | false => exact ends_paragraph
        | true => exact ⟨by decide, by decide⟩ }
  listing := ⟨canonical_listing.reads, canonical_listing.spelled⟩
  even placeholder := ⟨(canonical_even placeholder).fill, (canonical_even placeholder).clear⟩
  settles := ⟨canonical_settles.result, canonical_settles.func, by decide⟩
  covers := canonical_covers

theorem writtenOf_shifted_mocks {interfaces : List Interface} (some : interfaces ≠ []) :
    writtenOf (restTrees Spacing.shifted none interfaces) =
      "\n\n" ++ writtenOf (restTrees canonical none interfaces) := by
  obtain ⟨interface, rest, rfl⟩ := List.exists_cons_of_ne_nil some
  have keyword : Spacing.shifted.typeKeyword true = "\n\n" ++ canonical.typeKeyword true := by decide
  have struct : writtenOf (mock Spacing.shifted true interface) =
      "\n\n" ++ writtenOf (mock canonical true interface) := by
    simp only [mock, keyword, typeDeclaration, writtenOf_cons, written_node, written_keyword,
      String.append_assoc]
    rfl
  have later : rest.map (mock Spacing.shifted false) = rest.map (mock canonical false) := rfl
  simp only [restTrees, Option.map_none, Option.toList_none, List.nil_append, spread,
    List.flatten_cons, writtenOf_append, struct, later, String.append_assoc]

theorem textsOf_shifted (interfaces : List Interface) :
    textsOf (restTrees Spacing.shifted none interfaces) =
      textsOf (restTrees canonical none interfaces) := by
  cases interfaces with
  | nil => rfl
  | cons interface rest =>
      have struct : textsOf (mock Spacing.shifted true interface) =
          textsOf (mock canonical true interface) := by
        simp only [mock, typeDeclaration, textsOf_cons, texts_node, texts_keyword]
        rfl
      have later : rest.map (mock Spacing.shifted false) = rest.map (mock canonical false) := rfl
      simp only [restTrees, Option.map_none, Option.toList_none, List.nil_append, spread,
        List.flatten_cons, textsOf_append, struct, later]

theorem textsOf_kept {kept entries : List (String × String)} (among : kept ⊆ entries)
    (interfaces : List Interface) :
    textsOf (restTrees canonical (some kept) interfaces) ⊆
      textsOf (restTrees canonical (some entries) interfaces) := by
  have lines : textsOf (kept.map fun entry => (importLine canonical entry).tree) ⊆
      textsOf (entries.map fun entry => (importLine canonical entry).tree) := by
    refine textsOf_subset fun tree member => ?_
    obtain ⟨entry, found, rfl⟩ := List.mem_map.1 member
    exact ⟨_, List.mem_map_of_mem (among found), List.Subset.refl _⟩
  have list : texts (importTree canonical kept) ⊆ texts (importTree canonical entries) := by
    simp only [importTree, imports, texts_node, textsOf_cons, textsOf_append, texts_keyword,
      texts_mark, textsOf_nil, List.map_map, Function.comp_def, List.cons_append, List.nil_append,
      List.append_nil]
    refine List.cons_subset_cons _ (List.cons_subset_cons _ ?_)
    exact List.append_subset.2 ⟨List.subset_append_of_subset_left _ lines,
      List.subset_append_right _ _⟩
  simp only [restTrees, Option.map_some, Option.toList_some, List.cons_append, List.nil_append,
    textsOf_cons]
  exact List.append_subset.2 ⟨List.subset_append_of_subset_left _ list,
    List.subset_append_right _ _⟩

theorem textsOf_dropped (entries? : Option (List (String × String))) (interfaces : List Interface) :
    textsOf (restTrees canonical none interfaces) ⊆
      textsOf (restTrees canonical entries? interfaces) := by
  simp only [restTrees, textsOf_append]
  exact List.subset_append_of_subset_right _ (by simp)

end Mock

namespace Pruning

open InterfaceMocks.Syntax
open InterfaceMocks.Grammar (Source)
open InterfaceMocks.Written
open InterfaceMocks.Placeholder
open InterfaceMocks.Extraction (importSpecs isQuote unquote)
open InterfaceMocks.Mock
open Mock.Spacing (canonical)

def needs (used : List String) (entry : String × String) : Bool :=
  if entry.2 = "" then used.contains (assumedName entry.1)
  else entry.2 = "_" || entry.2 = "." || used.contains entry.2

def keep (used : List String) : Option (List (String × String)) → Option (List (String × String))
  | none => none
  | some entries =>
      if entries.filter (needs used) = [] then none else some (entries.filter (needs used))

theorem keep_keep (used : List String) (entries? : Option (List (String × String))) :
    keep used (keep used entries?) = keep used entries? := by
  cases entries? with
  | none => rfl
  | some entries =>
      by_cases none : entries.filter (needs used) = []
      · simp [keep, none]
      · simp only [keep, none, if_false, List.filter_filter, Bool.and_self]

theorem keep_subset {used : List String} {entries? : Option (List (String × String))}
    {known : List (String × String)} (among : ∀ entries ∈ entries?, entries ⊆ known) :
    ∀ entries ∈ keep used entries?, entries ⊆ known := by
  cases entries? with
  | none => simp [keep]
  | some entries =>
      simp only [keep]
      split
      · simp
      · rintro _ ⟨⟩
        exact List.Subset.trans (List.filter_subset_self _) (among entries rfl)

/-! One declaration. -/

section Imports

variable {entry : String × String} (plain : ∀ c ∈ entry.1.toList, isQuote c = false)

include plain in
theorem isUsed_importLine (used : List String) :
    isUsed used (importLine canonical entry).tree = needs used entry := by
  have quote := unquote_quoted plain
  simp only [isUsed, needs, importLine, ImportLine.tree, ImportLine.trees, ImportLine.path?]
  by_cases none : entry.2 = ""
  · simp [none, Tree.child?, quote]
  · by_cases dot : entry.2 = "."
    · simp [dot, Tree.child?]
    · by_cases blank : entry.2 = "_"
      · simp [blank, Tree.child?]
      · simp [none, dot, blank, Tree.child?]

theorem text_importLine (entry : String × String) :
    (importLine canonical entry).tree.text = (importLine canonical entry).laid := by
  simp only [ImportLine.laid, importLine, ImportLine.tree, ImportLine.trees, ImportLine.path?,
    Tree.text]
  apply String.toList_injective
  by_cases none : entry.2 = ""
  · simp [none, Token.textOf]
  · by_cases dot : entry.2 = "."
    · simp [dot, Token.textOf]
    · by_cases blank : entry.2 = "_" <;> simp [none, dot, blank, Token.textOf]

theorem importSpecs_importTree (entries : List (String × String)) :
    importSpecs (importTree canonical entries) =
      entries.map fun entry => (importLine canonical entry).tree := by
  have specs := importSpecs_written (entries.map (importLine canonical))
    (canonical.importEnd entries.isEmpty)
  rw [List.map_map] at specs
  simpa [importSpecs, importTree, imports, Tree.childrenOf, Function.comp_def] using specs

theorem filter_importLines {entries : List (String × String)}
    (plain : ∀ entry ∈ entries, ∀ c ∈ entry.1.toList, isQuote c = false) (used : List String) :
    (entries.map fun entry => (importLine canonical entry).tree).filter (isUsed used) =
      (entries.filter (needs used)).map fun entry => (importLine canonical entry).tree := by
  rw [List.filter_map]
  congr 1
  refine List.filter_congr fun entry found => ?_
  exact isUsed_importLine (plain entry found) used

theorem written_importTree (entries : List (String × String)) :
    written (importTree canonical entries) =
      "\n\n" ++ Layout.importBlock (entries.map fun entry => (importLine canonical entry).laid) := by
  rw [declaration_import canonical, importTree, declaration_imports, List.map_map]
  rfl

theorem lead_importTree (entries : List (String × String)) :
    Gap.textOf (importTree canonical entries).lead = "\n\n" := by
  have space : canonical.importKeyword = "\n\n" := rfl
  rw [importTree, imports, lead_node (by simp), lead_keyword, gap_text, space]

/-- An import declaration keeps the imports that are needed. -/
theorem prunedText_importTree {entries : List (String × String)}
    (plain : ∀ entry ∈ entries, ∀ c ∈ entry.1.toList, isQuote c = false) (used : List String) :
    "\n\n" ++ prunedText used (importTree canonical entries) =
      if entries.filter (needs used) = [] then "\n\n"
      else written (importTree canonical (entries.filter (needs used))) := by
  have kind : (importTree canonical entries).kind = .importDeclaration := rfl
  have specs := importSpecs_importTree entries
  have filtered := filter_importLines plain used
  have laid (kept : List (String × String)) : (kept.map fun entry =>
      (importLine canonical entry).tree).map Tree.text =
        kept.map fun entry => (importLine canonical entry).laid := by
    rw [List.map_map]
    exact List.map_congr_left fun entry _ => text_importLine entry
  simp only [prunedText, kind, if_true, specs, filtered, List.length_map, laid]
  by_cases none : entries.filter (needs used) = []
  · have other : (decide (0 = entries.length) && !entries.isEmpty) = false := by
      cases entries <;> simp
    simp [none, other, importBlock]
  · rw [if_neg none]
    by_cases all : (entries.filter (needs used)).length = entries.length
    · have same : entries.filter (needs used) = entries :=
        List.filter_eq_self.2 (List.length_filter_eq_length_iff.1 all)
      have some : entries.isEmpty = false := by
        rw [same] at none
        simpa using none
      have whole : Gap.textOf (importTree canonical entries).lead
          ++ (importTree canonical entries).text = written (importTree canonical entries) :=
        lead_text (by simp [importTree, imports])
      rw [lead_importTree] at whole
      simp [same, some, whole]
    · have block := written_importTree (entries.filter (needs used))
      have some : ((entries.filter (needs used)).map fun entry =>
          (importLine canonical entry).laid).isEmpty = false := by
        simpa [List.isEmpty_map] using none
      simp [all, block, importBlock, Layout.importBlock, some]

end Imports

/-! The whole file. -/

theorem mock_kind {first : Bool} {interface : Interface} {tree : Tree}
    (member : tree ∈ mock canonical first interface) :
    tree.kind ≠ .importDeclaration ∧ tree.tokens ≠ [] := by
  rcases List.mem_cons.1 member with rfl | later
  · exact ⟨by simp [typeDeclaration], by simp [typeDeclaration]⟩
  · obtain ⟨method, -, rfl⟩ := List.mem_map.1 later
    exact ⟨by simp [MockMethod.tree], by simp [MockMethod.tree]⟩

theorem join_prunedText (used : List String) {trees : List Tree}
    (others : ∀ tree ∈ trees, tree.kind ≠ .importDeclaration ∧ tree.tokens ≠ []) :
    String.join (trees.map fun tree => Gap.textOf tree.lead ++ prunedText used tree) =
      writtenOf trees := by
  rw [writtenOf_eq_join]
  refine congrArg String.join (List.map_congr_left fun tree member => ?_)
  obtain ⟨other, some⟩ := others tree member
  rw [prunedText, if_neg other, lead_text some]

section Files

variable (name : String) {entries? : Option (List (String × String))} (interfaces : List Interface)

/-- Only the import declaration changes. -/
theorem withoutUnused_restTrees :
    withoutUnused ⟨Written.package name :: restTrees canonical entries? interfaces, gap "\n"⟩ =
      written (Written.package name)
        ++ (entries?.elim "" fun entries => "\n\n"
          ++ prunedText (interfaces.flatMap Interface.mockQualifiers) (importTree canonical entries))
        ++ writtenOf (restTrees canonical none interfaces) ++ "\n" := by
  have used := qualifiersOf_restTrees name entries? interfaces
  generalize interfaces.flatMap Interface.mockQualifiers = names at used
  have mocked : ∀ tree ∈ restTrees canonical none interfaces,
      tree.kind ≠ .importDeclaration ∧ tree.tokens ≠ [] := by
    intro tree member
    rcases mem_restTrees canonical member with ⟨entries, ⟨⟩, -⟩ | ⟨first, interface, -, inside⟩
    exact mock_kind inside
  have others : ∀ tree ∈ [Written.package name],
      tree.kind ≠ .importDeclaration ∧ tree.tokens ≠ [] := by
    simp [Written.package]
  have clause := join_prunedText names others
  have body := join_prunedText names mocked
  rw [withoutUnused, mapDeclarations, used, gap_text]
  cases entries? with
  | none => simp_all [restTrees]
  | some entries => simp_all [restTrees, lead_importTree, String.append_assoc]

theorem withoutUnused_kept
    (plain : ∀ entries ∈ entries?, ∀ entry ∈ entries, ∀ c ∈ entry.1.toList, isQuote c = false)
    (kept : keep (interfaces.flatMap Interface.mockQualifiers) entries? = none → entries? = none) :
    withoutUnused ⟨Written.package name :: restTrees canonical entries? interfaces, gap "\n"⟩ =
      writtenOf (Written.package name :: restTrees canonical
        (keep (interfaces.flatMap Interface.mockQualifiers) entries?) interfaces) ++ "\n" := by
  rw [withoutUnused_restTrees]
  cases entries? with
  | none => simp [keep, String.append_assoc]
  | some entries =>
      have some : entries.filter (needs (interfaces.flatMap Interface.mockQualifiers)) ≠ [] := by
        intro none
        simp [keep, none] at kept
      rw [Option.elim_some, prunedText_importTree (plain entries rfl), if_neg some]
      simp [keep, some, restTrees, String.append_assoc]

theorem withoutUnused_dropped {entries : List (String × String)}
    (plain : ∀ entry ∈ entries, ∀ c ∈ entry.1.toList, isQuote c = false)
    (dropped : keep (interfaces.flatMap Interface.mockQualifiers) (some entries) = none) :
    withoutUnused ⟨Written.package name :: restTrees canonical (some entries) interfaces,
        gap "\n"⟩ =
      written (Written.package name) ++ "\n\n" ++ writtenOf (restTrees canonical none interfaces)
        ++ "\n" := by
  have none : entries.filter (needs (interfaces.flatMap Interface.mockQualifiers)) = [] := by
    by_contra some
    simp [keep, some] at dropped
  rw [withoutUnused_restTrees, Option.elim_some, prunedText_importTree plain, if_pos none]

end Files

section Pruned

variable {package : Package} (sound : Sound package)
  (plain : ∀ entry ∈ package.imports.entries, ∀ c ∈ entry.1.toList, isQuote c = false)
  {entries? : Option (List (String × String))}
  (known : ∀ entries ∈ entries?, entries ⊆ package.imports.entries)

theorem textsOf_keep (used : List String) (entries? : Option (List (String × String)))
    (interfaces : List Interface) :
    textsOf (restTrees canonical (keep used entries?) interfaces) ⊆
      textsOf (restTrees canonical entries? interfaces) := by
  cases entries? with
  | none => exact List.Subset.refl _
  | some entries =>
      by_cases none : entries.filter (needs used) = []
      · simp only [keep, none, if_true]
        exact textsOf_dropped _ interfaces
      · simp only [keep, none, if_false]
        exact textsOf_kept (List.filter_subset_self _) interfaces

theorem used_fill (placeholder : String) (interfaces : List Interface) :
    (interfaces.map (Interface.fill placeholder)).flatMap Interface.mockQualifiers =
      interfaces.flatMap Interface.mockQualifiers := by
  rw [List.flatMap_map]
  exact List.flatMap_congr fun interface _ => mockQualifiers_fill placeholder interface

include sound plain known

omit sound in
/-- What is left of a mocks file after pruning is a mocks file that may start further down. -/
theorem withoutUnused_filled (placeholder : String) :
    ∃ spacing trailing, spacing.Suits ∧ Blank trailing
      ∧ textsOf (restTrees spacing (keep (package.interfaces.flatMap Interface.mockQualifiers)
          entries?) package.interfaces) ⊆ textsOf (restTrees canonical entries? package.interfaces)
      ∧ withoutUnused ⟨Written.package package.name :: restTrees canonical entries?
          (package.interfaces.map (Interface.fill placeholder)), gap "\n"⟩ =
        writtenOf (Written.package package.name :: restTrees spacing
          (keep (package.interfaces.flatMap Interface.mockQualifiers) entries?)
          (package.interfaces.map (Interface.fill placeholder))) ++ trailing := by
  have used := used_fill placeholder package.interfaces
  have quotes : ∀ entries ∈ entries?, ∀ entry ∈ entries, ∀ c ∈ entry.1.toList,
      isQuote c = false := fun entries found entry listed => plain entry (known entries found listed)
  have texts := textsOf_keep (package.interfaces.flatMap Interface.mockQualifiers) entries?
    package.interfaces
  by_cases kept : keep (package.interfaces.flatMap Interface.mockQualifiers) entries? = none →
      entries? = none
  · have text := withoutUnused_kept package.name
      (package.interfaces.map (Interface.fill placeholder)) quotes (used ▸ kept)
    rw [used] at text
    exact ⟨canonical, "\n", Spacing.canonical_suits, blank_line, texts, text⟩
  · obtain ⟨dropped, some⟩ := Classical.not_imp.1 kept
    obtain ⟨entries, rfl⟩ := Option.ne_none_iff_exists'.1 some
    have text := withoutUnused_dropped package.name
      (package.interfaces.map (Interface.fill placeholder)) (quotes entries rfl) (used ▸ dropped)
    rw [dropped] at texts ⊢
    -- The two line feeds of the declaration go to the first mock, or to the end of the file.
    by_cases none : package.interfaces = []
    · refine ⟨canonical, "\n\n\n", Spacing.canonical_suits, by decide, texts, ?_⟩
      rw [text, none]
      apply String.toList_injective
      simp [restTrees, spread]
    · refine ⟨Spacing.shifted, "\n", Spacing.shifted_suits, blank_line, ?_, ?_⟩
      · rw [textsOf_shifted]
        exact texts
      · rw [text, writtenOf_cons, writtenOf_shifted_mocks (by simpa using none)]
        simp only [String.append_assoc]

/-- Pruning a mocks file leaves the mocks with the imports that they need. -/
theorem prune_restTrees :
    prune (writtenOf (Written.package package.name
        :: restTrees canonical entries? package.interfaces) ++ "\n") =
      .ok (writtenOf (Written.package package.name :: restTrees canonical
        (keep (package.interfaces.flatMap Interface.mockQualifiers) entries?)
        package.interfaces) ++ "\n") := by
  obtain ⟨n, chosen, absent⟩ := choose_fresh (writtenOf (Written.package package.name
    :: restTrees canonical entries? package.interfaces) ++ "\n")
  have parsed := parse_protected sound.name
    (restTrees_protectable sound Spacing.canonical_suits known n) blank_line
  have fewer : ∀ entries ∈ keep (package.interfaces.flatMap Interface.mockQualifiers) entries?,
      entries ⊆ package.imports.entries := keep_subset known
  obtain ⟨spacing, trailing, suits, blank, texts, left⟩ :=
    withoutUnused_filled plain known (candidate n)
  rw [← restTrees_filled sound Spacing.canonical_suits known,
    ← restTrees_filled sound suits fewer] at left
  have restored := restore_others sound.name (restTrees_protectable sound suits fewer) texts blank
    absent
  have formatted := format_restTrees sound suits fewer blank
  rw [← chosen] at parsed left restored
  simp only [prune_parsed parsed, left, restored, formatted]

end Pruned

end Pruning

namespace Mock

open InterfaceMocks.Written
open InterfaceMocks.Extraction (isQuote)
open InterfaceMocks.Pruning
open Spacing (canonical)

theorem plainPath_quotes {path : String} (plain : isPlainPath path = true) :
    ∀ c ∈ path.toList, isQuote c = false := by
  simp only [isPlainPath, List.all_eq_true, Bool.not_eq_true', List.contains_eq_mem,
    decide_eq_false_iff_not, List.mem_cons, List.not_mem_nil, or_false, not_or] at plain
  intro c member
  simp [isQuote, (plain c member).1, (plain c member).2.1]

theorem tame_quotes {package : Package} (tame : package.isTame = true) :
    ∀ entry ∈ package.imports.entries, ∀ c ∈ entry.1.toList, isQuote c = false := by
  simp only [Package.isTame, Bool.and_eq_true, List.all_eq_true] at tame
  exact fun entry found => plainPath_quotes (tame.1 entry found)

/-- For every plain package, what is generated is in canonical form, can be pruned, and what is left
then is changed neither by formatting nor by pruning it again. -/
theorem generate_prune_fixed (package : Package) (plain : package.isPlain = true) :
    ∃ generated pruned, generate? package = some generated
      ∧ format? generated = some generated
      ∧ prune generated = .ok pruned
      ∧ format? pruned = some pruned
      ∧ prune pruned = .ok pruned := by
  have sound := sound_of_plain plain
  have quotes := tame_quotes (package_of_plain plain).2
  have fewer : ∀ entries ∈ keep (package.interfaces.flatMap Interface.mockQualifiers)
      (some package.imports.entries), entries ⊆ package.imports.entries :=
    keep_subset imports_known
  have generated := generate_eq sound
  rw [mocks, fileTrees_eq] at generated
  have formatted := format_restTrees sound Spacing.canonical_suits imports_known blank_line
  have pruned := prune_restTrees sound quotes imports_known
  have formatted' := format_restTrees sound Spacing.canonical_suits fewer blank_line
  have pruned' := prune_restTrees sound quotes fewer
  rw [keep_keep] at pruned'
  exact ⟨_, _, generated, formatted, pruned, formatted', pruned'⟩

/-- The sample needs one of its two imports. -/
theorem generate_prune_fixed_samplePackage :
    samplePackage.isPlain = true ∧ ∃ generated pruned, generate? samplePackage = some generated
      ∧ format? generated = some generated
      ∧ prune generated = .ok pruned
      ∧ format? pruned = some pruned
      ∧ prune pruned = .ok pruned :=
  ⟨by decide, generate_prune_fixed samplePackage (by decide)⟩

end Mock

end InterfaceMocks
