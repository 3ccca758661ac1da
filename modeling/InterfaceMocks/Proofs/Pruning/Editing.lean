import InterfaceMocks.Proofs.Pruning.Substitution
import InterfaceMocks.Proofs.Run.Effects

/-!
Pruning edits import declarations and nothing else. The text that is formatted is the text that was
read, with new texts in the place of the import declarations that are empty or hold an unused import.
-/

namespace InterfaceMocks.Pruning

open InterfaceMocks.Syntax
open InterfaceMocks.Grammar (Source)
open InterfaceMocks.Extraction (importSpecs)
open InterfaceMocks.Placeholder (choose protect restore)

/-- An import declaration that pruning changes: it is empty, or one of its imports is not used. -/
def isChanged (used : List String) (tree : Tree) : Bool :=
  tree.kind = .importDeclaration
    && ((importSpecs tree).isEmpty || (importSpecs tree).any fun spec => !isUsed used spec)

/-- What takes its place: nothing if no import is used, and else a block of those that are. -/
def substitute (used : List String) (tree : Tree) : String :=
  match (importSpecs tree).filter (isUsed used) with
  | [] => ""
  | kept => "import (\n" ++ String.join (kept.map fun spec => "\t" ++ spec.text ++ "\n") ++ ")"

def formatted (text : String) : Except Error ByteArray :=
  match format? text with
  | none => .error .unformattable
  | some text => .ok text.toUTF8

theorem substitute_eq (used : List String) (tree : Tree) :
    substitute used tree =
      importBlock (((importSpecs tree).filter (isUsed used)).map Tree.text) := by
  unfold substitute
  split
  · rename_i none
    rw [none]
    rfl
  · rename_i some
    have kept : (((importSpecs tree).filter (isUsed used)).map Tree.text).isEmpty = false := by
      simpa using some
    simp [importBlock, kept, Function.comp_def]

theorem prunedText_eq_substitute (used : List String) (tree : Tree) :
    prunedText used tree = if isChanged used tree then substitute used tree else tree.text := by
  by_cases imports : tree.kind = .importDeclaration
  · simp only [prunedText, isChanged, imports, if_true, decide_true, Bool.true_and, substitute_eq]
    by_cases empty : (importSpecs tree).isEmpty = true
    · simp [empty]
    · by_cases all : ∀ spec ∈ importSpecs tree, isUsed used spec = true
      · have kept := List.length_filter_eq_length_iff.2 all
        have none : ((importSpecs tree).any fun spec => !isUsed used spec) = false := by
          simpa using all
        simp [empty, kept, none]
      · have fewer : ((importSpecs tree).filter (isUsed used)).length ≠ (importSpecs tree).length :=
          fun same => all (List.length_filter_eq_length_iff.1 same)
        have some : ((importSpecs tree).any fun spec => !isUsed used spec) = true := by
          simpa using all
        simp [fewer, some]
  · simp [prunedText, isChanged, imports]

theorem builtin_parsed (path : String) {source : String} {file : Source}
    (parsed : Source.parse? (protect (choose source) source) = some file) :
    builtin path source.toUTF8 = formatted (restore (choose source) (withoutUnused file)) := by
  rw [builtin, decode_toUTF8, formatted]
  simp only [prune_parsed parsed]
  cases format? (restore (choose source) (withoutUnused file)) <;> rfl

/-- Pruning formats the text that was read, with new texts in the place of the import declarations
that it changes; where it changes none, it formats the source. -/
theorem builtin_edits_imports (path source : String) (file : Source)
    (parsed : Source.parse? (protect (choose source) source) = some file) :
    protect (choose source) source = mapDeclarations Tree.text file
    ∧ builtin path source.toUTF8 =
        formatted (restore (choose source) (mapDeclarations (fun tree =>
          if isChanged (qualifiersOf file.trees) tree then substitute (qualifiersOf file.trees) tree
          else tree.text) file))
    ∧ ((∀ tree ∈ file.trees, isChanged (qualifiersOf file.trees) tree = false) →
        restore (choose source) (protect (choose source) source) = source →
        ∃ text, format? source = some text ∧ builtin path source.toUTF8 = .ok text.toUTF8) := by
  have whole := parse_text parsed
  have pruned := builtin_parsed path parsed
  rw [withoutUnused, funext (prunedText_eq_substitute (qualifiersOf file.trees))] at pruned
  refine ⟨whole, pruned, fun untouched undone => ?_⟩
  have same : mapDeclarations (fun tree =>
      if isChanged (qualifiersOf file.trees) tree then substitute (qualifiersOf file.trees) tree
      else tree.text) file = mapDeclarations Tree.text file := by
    unfold mapDeclarations
    congr 2
    refine List.map_congr_left fun tree member => ?_
    simp [untouched tree member]
  have formats : format? source = some (restore (choose source) (Layout.file file)) := by
    simp [format?, parsed]
  refine ⟨_, formats, ?_⟩
  rw [pruned, same, ← whole, undone, formatted, formats]

/-- A source with an import that is not used, one that is, and an empty declaration. -/
def importing : String :=
  "package p\n\nimport (\n\t\"io\"\n\t\"os\"\n)\n\nimport ()\n\ntype A os.File\n"

theorem builtin_edits_imports_importing :
    ∃ file, Source.parse? (protect (choose importing) importing) = some file
      ∧ (file.trees.filter (isChanged (qualifiersOf file.trees))).map
          (substitute (qualifiersOf file.trees)) = ["import (\n\t\"os\"\n)", ""]
      ∧ builtin "p.go" importing.toUTF8 =
        formatted (restore (choose importing) (mapDeclarations (fun tree =>
          if isChanged (qualifiersOf file.trees) tree then substitute (qualifiersOf file.trees) tree
          else tree.text) file)) := by
  have reads : ((Source.parse? (protect (choose importing) importing)).map fun file =>
      (file.trees.filter (isChanged (qualifiersOf file.trees))).map
        (substitute (qualifiersOf file.trees))) = some ["import (\n\t\"os\"\n)", ""] := by
    decide +kernel
  obtain ⟨file, parsed, changed⟩ := Option.map_eq_some_iff.1 reads
  exact ⟨file, parsed, changed, (builtin_edits_imports "p.go" importing file parsed).2.1⟩

end InterfaceMocks.Pruning
