import InterfaceMocks.Proofs.Loading.Directory
import InterfaceMocks.Pruning.PackageName
import Mathlib.Data.List.Forall2

/-!
The names by which the files of a package know what they import, after the files have been put
together. One alias is kept for each path, that of its last import. A type keeps the qualifier that its
own file gave it, so the qualifier still stands for the same path exactly if the last import of the
path, in this file or a later one, gives it the same name.
-/

namespace InterfaceMocks.Loading

open InterfaceMocks.Grammar (Source)
open InterfaceMocks.Extraction (contents importsIn interfacesIn)
open InterfaceMocks.Pruning (localName)

/-- A type that has the given qualifier somewhere in it. -/
inductive Mentions (qualifier : String) : TypeExpr → Prop where
  | qualified (name : String) : Mentions qualifier (.qualified qualifier name)
  | pointer {inner : TypeExpr} (inside : Mentions qualifier inner) :
      Mentions qualifier (.pointer inner)
  | array {length : Option String} {element : TypeExpr} (inside : Mentions qualifier element) :
      Mentions qualifier (.array length element)

/-- The sources of a directory that was loaded. -/
theorem sources_of_load {directory : String} {entries : List (String × Node)} {package : Package}
    (accepted : load directory (.ok entries) = .ok package) :
    ∃ sources, List.Forall₂ Reads (scanned entries) sources
      ∧ ∀ path, package.imports.entries.lookup path =
          Imports.lastAlias ((sources.filter (Contributes package.name)).flatMap importsIn) path := by
  have loaded := load_loadedFrom directory entries
  rw [accepted] at loaded
  have some : scanned entries ≠ [] := fun none => by simpa using loaded.nothing none
  have sound : ∀ file ∈ scanned entries, ¬ ∃ error, Fault directory file error := by
    intro file member fault
    obtain ⟨_, _, _, _, _, _, _, impossible⟩ := loaded.faulty ⟨file, member, fault⟩
    simp at impossible
  obtain ⟨sources, other, reads, same, -, -, imports⟩ := loaded.sound some sound
  obtain rfl := Except.ok.inj same
  refine ⟨sources, reads, fun path => ?_⟩
  rw [imports path, Imports.lastAlias_flatMap]

/-- What is imported after a given import: later in its file, and in later files of the package that
declare an interface. -/
def importedLater (package : String) (later : List (String × String)) (after : List Source) :
    List (String × String) :=
  later ++ (after.filter (Contributes package)).flatMap importsIn

theorem lastAlias_split {package : String} {before after : List Source} {source : Source}
    (contributes : Contributes package source = true) {earlier later : List (String × String)}
    {spec : String × String} (specs : importsIn source = earlier ++ spec :: later) :
    Imports.lastAlias
        (((before ++ source :: after).filter (Contributes package)).flatMap importsIn) spec.1 =
      some ((Imports.lastAlias (importedLater package later after) spec.1).getD spec.2) := by
  rw [List.filter_append, List.filter_cons_of_pos contributes, List.flatMap_append,
    List.flatMap_cons, specs, List.append_assoc, List.cons_append, ← importedLater]
  rw [Imports.lastAlias_append, Imports.lastAlias_append, Imports.lastAlias_cons]
  cases Imports.lastAlias (importedLater package later after) spec.1 <;> simp

/-- The path of an import is still imported after the files were put together, with the alias of the
last import of the path. Its local name is the same exactly if the last later import of the path, where
there is one, gives it that name. -/
theorem environment_survives {directory : String} {entries : List (String × Node)}
    {package : Package} (distinct : (entries.map Prod.fst).Nodup)
    (accepted : load directory (.ok entries) = .ok package) :
    ∃ files sources, IsScan entries files ∧ List.Forall₂ Reads files sources
      ∧ ∀ before source after, sources = before ++ source :: after →
          Contributes package.name source = true →
          ∀ earlier spec later, importsIn source = earlier ++ spec :: later →
            ∃ label, package.imports.entries.lookup spec.1 = some label
              ∧ label =
                  (Imports.lastAlias (importedLater package.name later after) spec.1).getD spec.2
              ∧ (localName (spec.1, label) = localName spec ↔
                  ∀ other, Imports.lastAlias (importedLater package.name later after) spec.1 =
                    some other → localName (spec.1, other) = localName spec) := by
  obtain ⟨sources, reads, imports⟩ := sources_of_load accepted
  refine ⟨scanned entries, sources, isScan_scanned distinct, reads, ?_⟩
  rintro before source after rfl contributes earlier spec later specs
  refine ⟨_, (imports spec.1).trans (lastAlias_split contributes specs), rfl, ?_⟩
  cases last : Imports.lastAlias (importedLater package.name later after) spec.1 with
  | none => simp
  | some other => simp

/-- The package of the sample directory: its second file renames what the first imports. -/
def merged : Package where
  name := "p"
  imports := Imports.empty.insert "m" "y"
  interfaces := [⟨"A", [⟨"F", [⟨"v", .qualified "x" "T"⟩], []⟩]⟩, ⟨"B", [⟨"G", [], []⟩]⟩]

theorem load_sampleEntries : load "p" (.ok sampleEntries) = .ok merged := by
  rw [load, sourceFiles_eq, scanned_sample]
  decide +kernel

theorem environment_survives_sample :
    (sampleEntries.map Prod.fst).Nodup ∧ load "p" (.ok sampleEntries) = .ok merged
      ∧ ∃ files sources, IsScan sampleEntries files ∧ List.Forall₂ Reads files sources
        ∧ ∀ before source after, sources = before ++ source :: after →
            Contributes merged.name source = true →
            ∀ earlier spec later, importsIn source = earlier ++ spec :: later →
              ∃ label, merged.imports.entries.lookup spec.1 = some label
                ∧ label =
                    (Imports.lastAlias (importedLater merged.name later after) spec.1).getD spec.2
                ∧ (localName (spec.1, label) = localName spec ↔
                    ∀ other, Imports.lastAlias (importedLater merged.name later after) spec.1 =
                      some other → localName (spec.1, other) = localName spec) :=
  ⟨by decide, load_sampleEntries, environment_survives (by decide) load_sampleEntries⟩

theorem firstSample_contents {source : Source} (reads : Reads firstSample source) :
    Contributes "p" source = true ∧ importsIn source = [("m", "x")]
      ∧ interfacesIn source = [⟨"A", [⟨"F", [⟨"v", .qualified "x" "T"⟩], []⟩]⟩] := by
  obtain ⟨text, decoded, parsed, -⟩ := reads
  have all : ((String.fromUTF8? firstSample.2).bind fun text =>
      (Source.parse? text).map fun source =>
        (Contributes "p" source, importsIn source, interfacesIn source)) =
      some (true, [("m", "x")], [⟨"A", [⟨"F", [⟨"v", .qualified "x" "T"⟩], []⟩]⟩]) := by
    decide +kernel
  rw [decoded] at all
  simpa [parsed] using all

/-- A qualifier need not stand for the import that its file meant by it. -/
theorem environment_lost :
    ¬ ∀ (directory : String) (entries : List (String × Node)) (package : Package)
        (files : List (String × ByteArray)) (sources : List Source),
        (entries.map Prod.fst).Nodup → load directory (.ok entries) = .ok package →
        IsScan entries files → List.Forall₂ Reads files sources →
        ∀ source ∈ sources, Contributes package.name source = true →
        ∀ interface ∈ interfacesIn source, ∀ method ∈ interface.methods,
        ∀ param ∈ method.args ++ method.returns, ∀ qualifier, Mentions qualifier param.type →
        ∀ spec ∈ importsIn source, spec.2 ≠ "_" → spec.2 ≠ "." → localName spec = qualifier →
        ∃ label, package.imports.entries.lookup spec.1 = some label
          ∧ localName (spec.1, label) = qualifier := by
  intro survives
  obtain ⟨sources, reads, -⟩ := sources_of_load load_sampleEntries
  rw [scanned_sample] at reads
  obtain ⟨source, rest, first, -, rfl⟩ := List.forall₂_cons_left_iff.1 reads
  obtain ⟨contributes, imports, interfaces⟩ := firstSample_contents first
  obtain ⟨label, found, same⟩ := survives "p" sampleEntries merged [firstSample, secondSample]
    (source :: rest) (by decide) load_sampleEntries isScan_sample reads source
    List.mem_cons_self contributes ⟨"A", [⟨"F", [⟨"v", .qualified "x" "T"⟩], []⟩]⟩ (by simp [interfaces])
    ⟨"F", [⟨"v", .qualified "x" "T"⟩], []⟩ (by simp) ⟨"v", .qualified "x" "T"⟩ (by simp) "x"
    (.qualified "T") ("m", "x") (by simp [imports]) (by decide) (by decide) (by decide)
  have renamed : label = "y" := by
    simpa [merged, Imports.insert, Imports.place, Imports.empty] using found.symm
  rw [renamed] at same
  exact absurd same (by decide)

end InterfaceMocks.Loading
