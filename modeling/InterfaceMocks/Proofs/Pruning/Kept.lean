import InterfaceMocks.Proofs.Loading.Merging
import InterfaceMocks.Proofs.Pruning.FixedPoint

/-!
Which imports a pruned mocks file still has. An import is kept for its alias, or because its package
qualifies a type of the mocks, or because a receiver happens to have its name: the receiver stands
before a dot in the body of each mocked method, and is not told from a package there.
-/

namespace InterfaceMocks

namespace Package

/-- Whether a type in an argument or a result of a method is qualified with a package of this name,
at any depth. -/
def Qualifies (package : Package) (name : String) : Prop :=
  ∃ interface ∈ package.interfaces, ∃ method ∈ interface.methods,
    ∃ param ∈ method.args ++ method.returns, name ∈ param.type.qualifiers

/-- Whether the mock of a method has a receiver of this name. -/
def Receives (package : Package) (name : String) : Prop :=
  ∃ interface ∈ package.interfaces, ∃ method ∈ interface.methods,
    name = Forwarding.receiver interface.name (Forwarding.arguments method) method.returns

end Package

namespace Pruning

open InterfaceMocks.Syntax
open InterfaceMocks.Grammar (Source)
open InterfaceMocks.Written
open InterfaceMocks.Placeholder
open InterfaceMocks.Extraction (importsIn importsOf isQuote)
open InterfaceMocks.Mock
open Mock.Spacing (canonical)

theorem needs_iff (used : List String) (entry : String × String) :
    needs used entry = true ↔ entry.2 = "_" ∨ entry.2 = "." ∨ localName entry ∈ used := by
  by_cases unnamed : entry.2 = ""
  · simp [needs, localName, unnamed]
  · simp [needs, localName, unnamed, or_assoc]

theorem mem_qualifiers (method : Method) (name : String) :
    name ∈ method.qualifiers ↔
      ∃ param ∈ method.args ++ method.returns, name ∈ param.type.qualifiers := by
  rw [Method.qualifiers, ← List.mem_flatMap, List.flatMap_append]
  rfl

theorem mem_mockQualifiers (interface : Interface) (name : String) :
    name ∈ interface.mockQualifiers ↔ ∃ method ∈ interface.methods, name ∈ method.qualifiers
      ∨ name = Forwarding.receiver interface.name (Forwarding.arguments method) method.returns := by
  simp only [Interface.mockQualifiers, List.mem_append, List.mem_flatMap, List.mem_singleton]
  constructor
  · rintro (⟨method, found, type⟩ | ⟨method, found, either⟩)
    · exact ⟨method, found, .inl type⟩
    · exact ⟨method, found, either⟩
  · rintro ⟨method, found, either⟩
    exact .inr ⟨method, found, either⟩

/-- What stands before a dot in the mocks of a package. -/
theorem mem_used (package : Package) (name : String) :
    name ∈ package.interfaces.flatMap Interface.mockQualifiers ↔
      package.Qualifies name ∨ package.Receives name := by
  simp only [List.mem_flatMap, mem_mockQualifiers, mem_qualifiers, Package.Qualifies,
    Package.Receives]
  constructor
  · rintro ⟨interface, listed, method, found, type | receiver⟩
    · exact .inl ⟨interface, listed, method, found, type⟩
    · exact .inr ⟨interface, listed, method, found, receiver⟩
  · rintro (⟨interface, listed, method, found, type⟩ | ⟨interface, listed, method, found, receiver⟩)
    · exact ⟨interface, listed, method, found, .inl type⟩
    · exact ⟨interface, listed, method, found, .inr receiver⟩

theorem keep_getD (used : List String) (entries : List (String × String)) :
    (keep used (some entries)).getD [] = entries.filter (needs used) := by
  simp only [keep]
  split
  · rename_i none
    exact none.symm
  · rfl

/-! The pruned file as it is read. -/

section Read

variable (name : String) {entries? : Option (List (String × String))} (interfaces : List Interface)
  (trailing : List Gap)

/-- The imports of a mocks file are those that it is written with. -/
theorem importsIn_restTrees
    (plain : ∀ entries ∈ entries?, ∀ entry ∈ entries, ∀ c ∈ entry.1.toList, isQuote c = false) :
    importsIn ⟨Written.package name :: restTrees canonical entries? interfaces, trailing⟩ =
      entries?.getD [] := by
  have declarations : Source.declarations
      ⟨Written.package name :: restTrees canonical entries? interfaces, trailing⟩ =
        Written.package name :: restTrees canonical entries? interfaces :=
    List.filter_eq_self.2 <| List.forall_mem_cons.2
      ⟨rfl, fun tree member => (bare_restTrees canonical entries? interfaces tree member).named⟩
  have clause : importsOf (Written.package name) = [] := rfl
  -- of the trees after the package clause only the first can be an import
  have others : (restTrees canonical none interfaces).flatMap importsOf = [] := by
    refine List.flatMap_eq_nil_iff.2 fun tree member => ?_
    rcases mem_restTrees canonical member with ⟨entries, ⟨⟩, -⟩ | ⟨first, interface, -, inside⟩
    rw [importsOf, if_neg (mock_kind inside).1]
  rw [importsIn, declarations, List.flatMap_cons, clause, List.nil_append]
  cases entries? with
  | none => exact others
  | some entries =>
      have header : importsOf (importTree canonical entries) = entries := by
        have lines : ∀ line ∈ entries.map (importLine canonical), ∀ c ∈ line.path.toList,
            isQuote c = false :=
          List.forall_mem_map.2 fun entry listed => plain entries rfl entry listed
        rw [importTree, importsOf_written _ _ lines, List.map_map]
        exact List.map_id'' (fun _ => rfl) entries
      simpa [restTrees, header] using others

theorem no_importDeclaration : ∀ tree ∈ Written.package name :: restTrees canonical none interfaces,
    tree.kind ≠ .importDeclaration := by
  refine List.forall_mem_cons.2 ⟨by simp [Written.package], fun tree member => ?_⟩
  rcases mem_restTrees canonical member with ⟨entries, ⟨⟩, -⟩ | ⟨first, interface, -, inside⟩
  exact (mock_kind inside).1

end Read

/-- A sound mocks file is read, under its own placeholder, as the trees it is the text of. -/
theorem parse_chosen {package : Package} (sound : Sound package)
    {entries? : Option (List (String × String))}
    (known : ∀ entries ∈ entries?, entries ⊆ package.imports.entries) {text : String}
    (written : text = writtenOf (Written.package package.name
      :: restTrees canonical entries? package.interfaces) ++ "\n") :
    Source.parse? (protect (choose text) text) =
      some ⟨Written.package package.name :: restTrees canonical entries?
        (package.interfaces.map (Interface.fill (choose text))), gap "\n"⟩ := by
  obtain ⟨n, chosen, -⟩ := choose_fresh text
  have parsed := parse_protected sound.name
    (restTrees_protectable sound Spacing.canonical_suits known n) blank_line
  rw [restTrees_filled sound Spacing.canonical_suits known] at parsed
  rw [chosen, written]
  exact parsed

end Pruning

namespace Mock

open InterfaceMocks.Pruning
open InterfaceMocks.Placeholder
open InterfaceMocks.Grammar (Source)
open InterfaceMocks.Extraction (importsIn)

/-- The pruned mocks file has the imports that stand before a dot in the mocks. -/
theorem pruned_imports {package : Package} (plain : package.isPlain = true) :
    ∃ generated pruned source, generate? package = some generated
      ∧ prune generated = .ok pruned
      ∧ Source.parse? (protect (choose pruned) pruned) = some source
      ∧ importsIn source = package.imports.entries.filter
          (needs (package.interfaces.flatMap Interface.mockQualifiers))
      ∧ (importsIn source = [] → ∀ tree ∈ source.trees, tree.kind ≠ .importDeclaration) := by
  have sound := sound_of_plain plain
  have quotes := tame_quotes (package_of_plain plain).2
  have generated := generate_eq sound
  rw [mocks, fileTrees_eq] at generated
  have pruned := prune_restTrees sound quotes imports_known
  have fewer : ∀ entries ∈ keep (package.interfaces.flatMap Interface.mockQualifiers)
      (some package.imports.entries), entries ⊆ package.imports.entries :=
    keep_subset imports_known
  have parsed := parse_chosen sound fewer rfl
  have listed (interfaces : List Interface) :=
    importsIn_restTrees package.name interfaces (Written.gap "\n")
      fun entries found entry member => quotes entry (fewer entries found member)
  simp only [keep_getD] at listed
  -- without imports the layout leaves the declaration out
  refine ⟨_, _, _, generated, pruned, parsed, listed _, fun none => ?_⟩
  rw [listed] at none
  simp only [keep, none, if_true]
  exact no_importDeclaration package.name _

/-- For every plain package, the pruned mocks file has, in the order of their paths, the imports with
a blank or dot alias and those whose package qualifies a type of a method or has the name of a
receiver; and it has no import declaration if there are none. -/
theorem prune_generated_imports (package : Package) (plain : package.isPlain = true) :
    ∃ generated pruned source, generate? package = some generated
      ∧ prune generated = .ok pruned
      ∧ Source.parse? (protect (choose pruned) pruned) = some source
      ∧ (∀ entry, entry ∈ importsIn source ↔ entry ∈ package.imports.entries
          ∧ (entry.2 = "_" ∨ entry.2 = "." ∨ package.Qualifies (localName entry)
            ∨ package.Receives (localName entry)))
      ∧ (importsIn source).Pairwise (fun first second => first.1 < second.1)
      ∧ (importsIn source = [] → ∀ tree ∈ source.trees, tree.kind ≠ .importDeclaration) := by
  obtain ⟨text, pruned, source, generates, prunes, parsed, listed, none⟩ := pruned_imports plain
  refine ⟨text, pruned, source, generates, prunes, parsed, fun entry => ?_, ?_, none⟩
  · rw [listed, List.mem_filter, needs_iff, mem_used]
  · rw [listed]
    exact package.imports.sorted.filter _

theorem prune_generated_imports_samplePackage :
    samplePackage.isPlain = true ∧ ∃ generated pruned source,
      generate? samplePackage = some generated
      ∧ prune generated = .ok pruned
      ∧ Source.parse? (protect (choose pruned) pruned) = some source
      ∧ (∀ entry, entry ∈ importsIn source ↔ entry ∈ samplePackage.imports.entries
          ∧ (entry.2 = "_" ∨ entry.2 = "." ∨ samplePackage.Qualifies (localName entry)
            ∨ samplePackage.Receives (localName entry)))
      ∧ (importsIn source).Pairwise (fun first second => first.1 < second.1)
      ∧ (importsIn source = [] → ∀ tree ∈ source.trees, tree.kind ≠ .importDeclaration) :=
  ⟨by decide, prune_generated_imports samplePackage (by decide)⟩

/-- A package whose one import has the name of a receiver, and qualifies no type. -/
def receiverPackage : Package where
  name := "p"
  imports := Imports.empty.extend [("fm", "")]
  interfaces := [⟨"Foo", [⟨"Bar", [], []⟩]⟩]

/-- An import that no type needs is kept for the sake of a receiver. -/
theorem receiver_keeps_import :
    receiverPackage.isPlain = true
      ∧ ¬ receiverPackage.Qualifies (localName ("fm", ""))
      ∧ ∃ generated pruned source, generate? receiverPackage = some generated
        ∧ prune generated = .ok pruned
        ∧ Source.parse? (protect (choose pruned) pruned) = some source
        ∧ ("fm", "") ∈ importsIn source := by
  have plain : receiverPackage.isPlain = true := by decide
  refine ⟨plain, ?_, ?_⟩
  -- its only method has neither arguments nor results
  · rintro ⟨interface, listed, method, found, param, inside, -⟩
    simp only [receiverPackage, List.mem_singleton] at listed
    subst listed
    simp only [List.mem_singleton] at found
    subst found
    simp at inside
  · obtain ⟨text, pruned, source, generates, prunes, parsed, listed, -⟩ := pruned_imports plain
    have receiver : Forwarding.receiver "Foo" [] [] = "fm" := by
      rw [Forwarding.receiver, Forwarding.fresh]
      decide
    have receives : receiverPackage.Receives (localName ("fm", "")) :=
      ⟨_, List.mem_singleton.2 rfl, _, List.mem_singleton.2 rfl, receiver.symm⟩
    refine ⟨text, pruned, source, generates, prunes, parsed, ?_⟩
    rw [listed, List.mem_filter, needs_iff, mem_used]
    exact ⟨by decide, .inr (.inr (.inr receives))⟩

end Mock

end InterfaceMocks
