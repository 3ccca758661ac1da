import InterfaceMocks.Proofs.Extraction.Identifiers
import InterfaceMocks.Proofs.Files.Writing
import InterfaceMocks.Proofs.Loading.Directory
import InterfaceMocks.Proofs.Pruning.FixedPoint

/-!
Running a command line again. The output file may be one of the sources that the next run reads. If all
types were recognised it can be read there, and adds nothing to the package: so the next run writes what
is there already. If one was not, the output file cannot be read, and the next run fails.
-/

namespace InterfaceMocks

namespace Loading

open InterfaceMocks.Extraction (FileContents)

/-! A directory with one source more. -/

theorem scanned_append_other {entry : String × Node} (other : asSource? entry = none)
    (entries : List (String × Node)) : scanned (entries ++ [entry]) = scanned entries := by
  rw [scanned, List.filterMap_append, List.filterMap_cons_none other, List.filterMap_nil,
    List.append_nil, scanned]

theorem IsScan.perm {entries others : List (String × Node)} {files : List (String × ByteArray)}
    (scan : IsScan entries files) (perm : entries.Perm others) : IsScan others files where
  sorted := scan.sorted
  mem_iff name contents := by simp only [scan.mem_iff, perm.mem_iff]

/-- One file more is put in its place among the others. -/
theorem scanned_append_source {entries : List (String × Node)} {name : String} {mode : Nat}
    {contents : ByteArray} (source : isSourceName name = true)
    (distinct : ((entries ++ [(name, Node.file mode contents)]).map Prod.fst).Nodup) :
    ∃ before after, scanned entries = before ++ after
      ∧ scanned (entries ++ [(name, .file mode contents)]) = before ++ (name, contents) :: after := by
  obtain ⟨before, after, more, same, -⟩ := @List.mergeSort_cons _
    (fun first second : String × ByteArray => decide (first.1 ≤ second.1))
    (fun _ _ _ first second => by
      simpa using String.le_trans (by simpa using first) (by simpa using second))
    (fun first second => by simpa using String.le_total first.1 second.1)
    (name, contents) (entries.filterMap asSource?)
  refine ⟨before, after, same, ?_⟩
  have found : asSource? (name, .file mode contents) = some (name, contents) :=
    asSource_eq_some.2 ⟨source, mode, rfl⟩
  rw [← more, ← List.filterMap_cons_some found]
  -- the scan does not see whether the new entry comes first or last
  have perm : (entries ++ [(name, Node.file mode contents)]).Perm
      ((name, .file mode contents) :: entries) := List.perm_append_singleton _ _
  have moved := isScan_scanned (((perm.map Prod.fst).nodup_iff).1 distinct)
  exact (isScan_scanned distinct).unique (moved.perm perm.symm)

theorem readAll_cons {file : SourceFile} {files : List SourceFile} {contents : List FileContents} :
    readAll (file :: files) = .ok contents ↔
      ∃ first rest, readFile file = .ok first ∧ readAll files = .ok rest
        ∧ contents = first :: rest := by
  rw [readAll]
  cases readFile file with
  | error error => simp [Except.bind]
  | ok first => cases readAll files <;> simp [Except.bind, Except.map, eq_comm]

theorem readAll_append {files others : List SourceFile} {contents : List FileContents} :
    readAll (files ++ others) = .ok contents ↔
      ∃ before after, readAll files = .ok before ∧ readAll others = .ok after
        ∧ contents = before ++ after := by
  induction files generalizing contents with
  | nil => simp [readAll]
  | cons file files ih =>
      simp only [List.cons_append, readAll_cons, ih]
      constructor
      · rintro ⟨first, _, here, ⟨before, after, early, late, rfl⟩, rfl⟩
        exact ⟨first :: before, after, ⟨first, before, here, early, rfl⟩, late, rfl⟩
      · rintro ⟨_, after, ⟨first, before, here, early, rfl⟩, late, rfl⟩
        exact ⟨first, _, here, ⟨before, after, early, late, rfl⟩, rfl⟩

/-- A file without interfaces adds nothing to its package. -/
theorem assemble_insert {before after : List FileContents} (some : before ++ after ≠ []) :
    assemble (before ++ ⟨(assemble (before ++ after)).name, .empty, []⟩ :: after) =
      assemble (before ++ after) := by
  have unchanged (imports : Imports) : imports.extend Imports.empty.entries = imports := rfl
  cases before with
  | nil =>
      obtain ⟨first, after, rfl⟩ := List.exists_cons_of_ne_nil some
      simp [assemble, unchanged]
  | cons first before => simp [assemble, unchanged, List.filter_append]

variable {directory : String}

theorem loadFiles_eq_ok {files : List SourceFile} {package : Package} :
    loadFiles directory files = .ok package ↔
      ∃ contents ≠ [], readAll files = .ok contents ∧ assemble contents = package := by
  rw [loadFiles]
  cases files with
  | nil => simp +contextual [readAll, eq_comm]
  | cons file files =>
      constructor
      · intro loaded
        cases all : readAll (file :: files) with
        | error error => simp [all, Except.map] at loaded
        | ok contents =>
            obtain ⟨first, rest, -, -, rfl⟩ := readAll_cons.1 all
            exact ⟨_, by simp, rfl, by simpa [all, Except.map] using loaded⟩
      · rintro ⟨contents, -, all, rfl⟩
        simp [all, Except.map]

/-- A package is the same with one source more that belongs to it and has no interfaces. -/
theorem load_append {entries : List (String × Node)} {name : String} {mode : Nat}
    {contents : ByteArray} {package : Package} (source : isSourceName name = true)
    (distinct : ((entries ++ [(name, Node.file mode contents)]).map Prod.fst).Nodup)
    (loaded : load directory (.ok entries) = .ok package)
    (read : readFile (located directory (name, contents)) = .ok ⟨package.name, .empty, []⟩) :
    load directory (.ok (entries ++ [(name, .file mode contents)])) = .ok package := by
  obtain ⟨before, after, old, new⟩ := scanned_append_source source distinct
  rw [load, sourceFiles_eq, loadFiles_eq_ok] at loaded ⊢
  obtain ⟨list, some, all, rfl⟩ := loaded
  rw [old, List.map_append] at all
  obtain ⟨first, second, early, late, rfl⟩ := readAll_append.1 all
  rw [new, List.map_append, List.map_cons]
  have later := readAll_cons.2 ⟨_, second, read, late, rfl⟩
  exact ⟨_, by simp, readAll_append.2 ⟨first, _, early, later, rfl⟩, assemble_insert some⟩

/-! The names of what is loaded. -/

theorem readAll_named {files : List SourceFile} {list : List FileContents}
    (all : readAll files = .ok list) : ∀ contents ∈ list, contents.toPackage.Named := by
  induction files generalizing list with
  | nil =>
      obtain rfl : [] = list := by simpa [readAll] using all
      simp
  | cons file files ih =>
      obtain ⟨first, rest, here, later, rfl⟩ := readAll_cons.1 all
      intro contents member
      rcases List.mem_cons.1 member with rfl | member
      · rw [readFile] at here
        split at here
        · cases here
        · exact Extraction.parseFile_named here
      · exact ih later contents member

theorem mem_merged {list : List FileContents} {imports : Imports} {entry : String × String}
    (found : entry ∈ (list.foldl (fun imports contents => imports.extend contents.imports.entries)
      imports).entries) :
    entry ∈ imports.entries ∨ ∃ contents ∈ list, entry ∈ contents.imports.entries := by
  induction list generalizing imports with
  | nil => exact .inl found
  | cons contents list ih =>
      rcases ih found with early | ⟨other, member, listed⟩
      · refine (Extraction.mem_extend early).imp_right fun listed => ?_
        exact ⟨contents, List.mem_cons_self, listed⟩
      · exact .inr ⟨other, List.mem_cons_of_mem _ member, listed⟩

/-- All names of a package that was loaded are identifiers. -/
theorem load_named {listing : Listing} {package : Package}
    (loaded : load directory listing = .ok package) : package.Named := by
  cases listing with
  | error error => simp [load] at loaded
  | ok entries =>
      obtain ⟨list, some, all, rfl⟩ := loadFiles_eq_ok.1 loaded
      have named := readAll_named all
      obtain ⟨first, rest, rfl⟩ := List.exists_cons_of_ne_nil some
      refine ⟨(named first List.mem_cons_self).name, fun entry found => ?_,
        fun interface found => ?_⟩
      · rcases mem_merged found with none | ⟨contents, chosen, listed⟩
        · simp [Imports.empty] at none
        · exact (named contents (List.mem_filter.1 chosen).1).labels entry listed
      · obtain ⟨contents, chosen, listed⟩ := List.mem_flatMap.1 found
        exact (named contents (List.mem_filter.1 chosen).1).interfaces interface listed

end Loading

namespace Mock

open InterfaceMocks.Syntax
open InterfaceMocks.Grammar (Source)
open InterfaceMocks.Written
open InterfaceMocks.Placeholder
open InterfaceMocks.Extraction (contents interfaceOf? interfacesOf packageName? parseFile isQuote)
open Spacing (canonical)

/-! A mocks file as a source. -/

theorem fill_type {expr : TypeExpr} (known : expr.isUnrecognised = false) (placeholder : String) :
    expr.fill placeholder = expr := by
  induction expr with
  | named text => rfl
  | qualified package text => rfl
  | pointer inner ih => rw [TypeExpr.fill, ih known]
  | array length element ih => rw [TypeExpr.fill, ih known]
  | unrecognised => simp [TypeExpr.isUnrecognised] at known

/-- Where all types were recognised there is nothing to fill. -/
theorem fill_interfaces {package : Package} (known : package.unrecognised = [])
    (placeholder : String) :
    package.interfaces.map (Interface.fill placeholder) = package.interfaces := by
  have params {list : List Param} (each : ∀ param ∈ list, param.type.isUnrecognised = false) :
      list.map (Param.fill placeholder) = list := by
    refine (List.map_congr_left fun param member => ?_).trans (List.map_id _)
    rw [Param.fill, fill_type (each param member), id]
  have methods : ∀ interface ∈ package.interfaces, ∀ method ∈ interface.methods,
      method.fill placeholder = method := by
    intro interface found method member
    have recognised : ∀ param ∈ method.args ++ method.returns,
        param.type.isUnrecognised = false := by
      simp only [Package.unrecognised, List.flatMap_eq_nil_iff, List.map_eq_nil_iff,
        List.filter_eq_nil_iff, Method.hasUnrecognised, List.any_eq_true, not_exists, not_and,
        Bool.not_eq_true] at known
      exact known interface found method member
    rw [Method.fill, params fun param among => recognised param (List.mem_append_left _ among),
      params fun param among => recognised param (List.mem_append_right _ among)]
  refine (List.map_congr_left fun interface found => ?_).trans (List.map_id _)
  rw [Interface.fill, List.map_congr_left (methods interface found), List.map_id', id]

/-- A mocks file declares no interface, and so its imports do not count. -/
theorem contents_restTrees (name : String) (entries? : Option (List (String × String)))
    (interfaces : List Interface) (trailing : List Gap) :
    contents ⟨Written.package name :: restTrees canonical entries? interfaces, trailing⟩ =
      ⟨name, .empty, []⟩ := by
  have each : ∀ tree ∈ restTrees canonical entries? interfaces,
      tree.isNamed = true ∧ interfacesOf tree = [] ∧ packageName? tree = none := by
    intro tree member
    rcases mem_restTrees canonical member with ⟨entries, -, rfl⟩ | ⟨first, interface, -, inside⟩
    · exact ⟨rfl, rfl, rfl⟩
    · rcases List.mem_cons.1 inside with rfl | later
      · have role : (struct canonical interface.methods).role = .type := rfl
        have kind : (struct canonical interface.methods).kind = .structType := rfl
        refine ⟨rfl, ?_, rfl⟩
        simp [interfacesOf, typeDeclaration, Tree.childrenOf, interfaceOf?, Tree.child?, role, kind]
      · obtain ⟨method, -, rfl⟩ := List.mem_map.1 later
        exact ⟨rfl, rfl, rfl⟩
  have declarations : Source.declarations
      ⟨Written.package name :: restTrees canonical entries? interfaces, trailing⟩ =
        Written.package name :: restTrees canonical entries? interfaces := by
    refine List.filter_eq_self.2 fun tree member => ?_
    rcases List.mem_cons.1 member with rfl | member
    · rfl
    · exact (each tree member).1
  have clauses : (Written.package name
      :: restTrees canonical entries? interfaces).filterMap packageName? = [name] := by
    rw [List.filterMap_cons_some (packageName_written name),
      List.filterMap_eq_nil_iff.2 fun tree member => (each tree member).2.2]
  have none : (Written.package name
      :: restTrees canonical entries? interfaces).flatMap interfacesOf = [] := by
    rw [List.flatMap_cons, List.flatMap_eq_nil_iff.2 fun tree member => (each tree member).2.1]
    rfl
  simp only [contents, declarations, clauses, none]
  rfl

section Sources

variable {package : Package} (sound : Sound package) (known : package.unrecognised = [])
  {entries? : Option (List (String × String))}
  (listed : ∀ entries ∈ entries?, entries ⊆ package.imports.entries)

include sound known listed

/-- Where all types were recognised, a mocks file is read back as it is. -/
theorem parse_restTrees :
    Source.parse? (writtenOf (Written.package package.name
        :: restTrees canonical entries? package.interfaces) ++ "\n") =
      some ⟨Written.package package.name :: restTrees canonical entries? package.interfaces,
        gap "\n"⟩ := by
  have protectable := restTrees_protectable sound Spacing.canonical_suits listed 0
  have same : (restTrees canonical entries? package.interfaces).map (fillTree (candidate 0)) =
      restTrees canonical entries? package.interfaces := by
    rw [restTrees_filled sound Spacing.canonical_suits listed, fill_interfaces known]
  have parsed := parse_protected sound.name protectable blank_line
  rw [protect_source sound.name protectable blank_line, same] at parsed
  exact parsed

theorem parseFile_restTrees (file : String) :
    parseFile file (writtenOf (Written.package package.name
        :: restTrees canonical entries? package.interfaces) ++ "\n") =
      .ok ⟨package.name, .empty, []⟩ := by
  have named : package.name ≠ "" := isName_ne sound.name
  simp only [parseFile, parse_restTrees sound known listed, contents_restTrees, named, if_false]

end Sources

end Mock

open InterfaceMocks.Loading (load)
open InterfaceMocks.Written (writtenOf)

/-- What is produced for a tame package with only recognised types can be read as a source of the
package, and declares no interface there. -/
theorem parseFile_produced {package : Package} (named : package.Named) (tame : package.isTame = true)
    (known : package.unrecognised = []) {pruner : Pruner} {text : String} {bytes : ByteArray}
    (generated : generate? package = some text) (pruned : PrunedBy pruner text bytes) :
    ∃ written : String, bytes = written.toUTF8
      ∧ ∀ file, Extraction.parseFile file written = .ok ⟨package.name, .empty, []⟩ := by
  have sound := Mock.sound_of_named named tame
  rw [Mock.generate_eq sound, Mock.mocks, Mock.fileTrees_eq, Option.some.injEq] at generated
  subst generated
  cases pruned with
  | off => exact ⟨_, rfl, Mock.parseFile_restTrees sound known Mock.imports_known⟩
  | builtin succeeds =>
      rw [Pruning.prune_restTrees sound (Mock.tame_quotes tame) Mock.imports_known] at succeeds
      obtain rfl := Except.ok.inj succeeds
      exact ⟨_, rfl, Mock.parseFile_restTrees sound known
        (Pruning.keep_subset Mock.imports_known)⟩

/-- A tame package with interfaces always has its mocks. -/
theorem produces_tame {store : Store} {command : CommandLine} {package : Package}
    (own : command.settings.pruner ≠ .tool)
    (loaded : load command.directory (store.list command.directory) = .ok package)
    (some : package.interfaces ≠ []) (tame : package.isTame = true) :
    ∃ bytes, Produces store command bytes := by
  have sound := Mock.sound_of_named (Loading.load_named loaded) tame
  have pruned := Pruning.prune_restTrees sound (Mock.tame_quotes tame) Mock.imports_known
  have made : ∃ bytes, PrunedBy command.settings.pruner
      (writtenOf (Mock.mocks .canonical package) ++ "\n") bytes := by
    cases kind : command.settings.pruner with
    | builtin => exact ⟨_, .builtin pruned⟩
    | tool => exact absurd kind own
    | off => exact ⟨_, .off _⟩
  obtain ⟨bytes, made⟩ := made
  exact ⟨bytes, package, _, loaded, some, Mock.generate_eq sound, made⟩

/-- The output file will be in the directory of the package, under the name of a source. -/
def Rescans (store : Store) (command : CommandLine) : Prop :=
  ∃ output directory name,
    store.resolve (command.settings.outputPath command.directory) = .ok output
      ∧ store.resolve command.directory = .ok directory
      ∧ output.location = directory.location ++ [name] ∧ Loading.isSourceName name = true

section Again

variable {store : Store} {command : CommandLine} {package : Package} {bytes : ByteArray}
  {output : Store.Target} (distinct : store.Distinct)
  (resolved : store.resolve (command.settings.outputPath command.directory) = .ok output)
  (absent : store.node? output.location = none)
  (loaded : load command.directory (store.list command.directory) = .ok package)
  (adds : Rescans store command → ∃ written : String, bytes = written.toUTF8
    ∧ ∀ file, Extraction.parseFile file written = .ok ⟨package.name, .empty, []⟩)

include distinct resolved absent loaded adds

/-- The output file does not change the package. -/
theorem load_again {mode : Nat} :
    load command.directory
      ((store.set output.location (.file mode bytes)).list command.directory) = .ok package := by
  cases listed : store.list command.directory with
  | error error => simp [listed, load] at loaded
  | ok entries =>
      rw [listed] at loaded
      have distinct' := Store.distinct_set_new distinct absent (.file mode bytes)
      rcases @Store.list_set_new _ _ mode bytes absent _ _ listed with
        same | ⟨directory, name, found, inside, more⟩
      · rw [same, loaded]
      · rw [more]
        by_cases source : Loading.isSourceName name = true
        · obtain ⟨written, rfl, parsed⟩ :=
            adds ⟨output, directory, name, resolved, found, inside, source⟩
          refine Loading.load_append source (Store.list_distinct distinct' more) loaded ?_
          rw [Loading.readFile, Loading.located, decode_toUTF8]
          exact parsed _
        · have other : Loading.asSource? (name, .file mode bytes) = none := by
            simp [Loading.asSource?, source]
          rw [load, Loading.sourceFiles_eq, Loading.scanned_append_other other]
          exact loaded

end Again

/-- A run that succeeds can be repeated, and changes nothing then, if the package is tame and all of
its types were recognised, or if the output file is no source of the package. -/
theorem run_again (store : Store) (command : CommandLine) (distinct : store.Distinct)
    (own : command.settings.pruner ≠ .tool)
    (absent : ∀ found, store.find (command.settings.outputPath command.directory) ≠ .ok found)
    (succeeds : (run store command).failure = none)
    (known : Rescans store command → ∀ package,
      load command.directory (store.list command.directory) = .ok package →
        package.isTame = true ∧ package.unrecognised = []) :
    (run (run store command).store command).failure = none
      ∧ (run (run store command).store command).store = (run store command).store := by
  rcases run_cases store own with ⟨unchanged, -⟩ | ⟨generates, writes, -, bytes, -, produces, -⟩
  · rw [unchanged]
    exact ⟨succeeds, unchanged⟩
  · have written := (run_eq_write own generates writes produces).2 ⟨succeeds, rfl⟩
    obtain ⟨⟨output, resolved, missing, after⟩, again⟩ := Store.write_again absent written
    obtain ⟨package, text, loaded, some, generated, pruned⟩ := produces
    have reloaded : load command.directory
        ((run store command).store.list command.directory) = .ok package := by
      rw [after]
      refine load_again distinct resolved missing loaded fun rescans => ?_
      obtain ⟨tame, recognised⟩ := known rescans package loaded
      exact parseFile_produced (Loading.load_named loaded) tame recognised generated pruned
    have produces : Produces (run store command).store command bytes :=
      ⟨package, text, reloaded, some, generated, pruned⟩
    exact (run_eq_write own generates writes produces).1 again

/-- A source with an import that the mocks need, and one that they do not. -/
def readerFile : ByteArray :=
  "package p\nimport (\n\t\"io\"\n\t\"os\"\n)\ntype A interface \x7b\n\tF(r io.Reader, n int) error\n\x7d\n".toUTF8

def readerDescriptor : Package where
  name := "p"
  imports := Imports.empty.extend [("io", ""), ("os", "")]
  interfaces :=
    [⟨"A", [⟨"F", [⟨"r", .qualified "io" "Reader"⟩, ⟨"n", .named "int"⟩], [⟨"", .named "error"⟩]⟩]⟩]

theorem oneFile_distinct (contents : ByteArray) : (oneFile contents).Distinct := by
  simp [Store.Distinct, oneFile]

theorem oneFile_absent (contents : ByteArray) (found : Location × Node) :
    (oneFile contents).find (sampleCommand.settings.outputPath sampleCommand.directory) ≠
      .ok found := by
  have path : sampleCommand.settings.outputPath sampleCommand.directory = "p/mocks.go" := by decide
  rw [path, Store.find, oneFile_resolve]
  rintro ⟨⟩

theorem oneFile_rescans (contents : ByteArray) : Rescans (oneFile contents) sampleCommand :=
  ⟨_, _, "mocks.go", oneFile_resolve, oneFile_directory, rfl, by decide⟩

theorem load_readerFile :
    load "p" ((oneFile readerFile).list "p") = .ok readerDescriptor := by
  rw [oneFile_load]
  decide +kernel

theorem run_again_readerFile :
    (oneFile readerFile).Distinct ∧ (run (oneFile readerFile) sampleCommand).failure = none
      ∧ Rescans (oneFile readerFile) sampleCommand
      ∧ readerDescriptor.isTame = true ∧ readerDescriptor.unrecognised = []
      ∧ (run (run (oneFile readerFile) sampleCommand).store sampleCommand).failure = none
      ∧ (run (run (oneFile readerFile) sampleCommand).store sampleCommand).store =
          (run (oneFile readerFile) sampleCommand).store := by
  have tame : readerDescriptor.isTame = true := by decide
  obtain ⟨bytes, produces⟩ := @produces_tame _ sampleCommand _ (by decide) load_readerFile
    (by decide) tame
  have succeeds := (oneFile_run produces).1
  have again := run_again (oneFile readerFile) sampleCommand (oneFile_distinct _) (by decide)
    (oneFile_absent _) succeeds fun _ package loaded => by
      obtain rfl := Except.ok.inj (load_readerFile.symm.trans loaded)
      decide
  exact ⟨oneFile_distinct _, succeeds, oneFile_rescans _, tame, by decide, again⟩

/-- A source with a type that is not recognised, and its mocks. -/
def channelFile : ByteArray :=
  "package p\ntype A interface \x7b\n\tF(c chan int)\n\x7d\n".toUTF8

def channelDescriptor : Package where
  name := "p"
  imports := .empty
  interfaces := [⟨"A", [⟨"F", [⟨"c", .unrecognised⟩], []⟩]⟩]

def channelMocks : String :=
  "package p\n\ntype mockA struct \x7b\n\tmF func(c <unrecognised>)\n\x7d\n\n"
    ++ "func (am mockA) F(c <unrecognised>) \x7b\n\tam.mF(c)\n\x7d\n"

theorem channelFile_produces :
    Produces (oneFile channelFile) sampleCommand channelMocks.toUTF8 := by
  have loaded : load "p" ((oneFile channelFile).list "p") = .ok channelDescriptor := by
    rw [oneFile_load]
    decide +kernel
  have tame : channelDescriptor.isTame = true := by decide
  have sound := Mock.sound_of_named (Loading.load_named loaded) tame
  have pruned := Pruning.prune_restTrees sound (Mock.tame_quotes tame) Mock.imports_known
  have dropped : Pruning.keep (channelDescriptor.interfaces.flatMap Interface.mockQualifiers)
      (some channelDescriptor.imports.entries) = none := rfl
  have text : writtenOf (Written.package channelDescriptor.name
      :: Mock.restTrees .canonical none channelDescriptor.interfaces) ++ "\n" = channelMocks := by
    decide +kernel
  rw [dropped, text] at pruned
  exact ⟨channelDescriptor, _, loaded, by decide, Mock.generate_eq sound, .builtin pruned⟩

theorem oneFile_reload (contents bytes : ByteArray) :
    load "p" (((oneFile contents).set ["p", "mocks.go"] (.file outputMode bytes)).list "p") =
      Loading.loadFiles "p" [⟨"p/a.go", contents⟩, ⟨"p/mocks.go", bytes⟩] := by
  have absent : (oneFile contents).node? ["p", "mocks.go"] = none := rfl
  have found := @Store.resolve_set_new _ _ outputMode bytes absent _ _ oneFile_directory (by decide)
  have listed : ((oneFile contents).set ["p", "mocks.go"] (.file outputMode bytes)).list "p" =
      .ok [("a.go", .file 0o600 contents), ("mocks.go", .file outputMode bytes)] :=
    Store.list_eq_ok.2 ⟨_, found, rfl, rfl⟩
  have sources : Loading.isSourceName "a.go" = true ∧ Loading.isSourceName "mocks.go" = true := by
    decide
  have sorted : "a.go" ≤ "mocks.go" := by decide
  have scan : Loading.scanned
      [("a.go", .file 0o600 contents), ("mocks.go", .file outputMode bytes)] =
        [("a.go", contents), ("mocks.go", bytes)] := by
    simp [Loading.scanned, Loading.asSource?, sources, List.mergeSort_of_pairwise, sorted]
  have paths : Path.join "p" "a.go" = "p/a.go" ∧ Path.join "p" "mocks.go" = "p/mocks.go" := by
    decide
  simp only [listed, load, Loading.sourceFiles_eq, scan, List.map_cons, List.map_nil, paths]

theorem run_unloaded {store : Store} {command : CommandLine} {error : Error}
    (generates : command.json = false)
    (unloaded : load command.directory (store.list command.directory) = .error error) :
    (run store command).failure = some (.error [Plan.parseContext command.directory] error) := by
  have listed : load command.directory (Surroundings.ofStore store command).listing =
      .error error := unloaded
  unfold run Plan.carryOut plan Plan.generate Plan.fail
  simp only [generates, listed, Bool.false_eq_true, if_false]

/-- The mocks of a type that was not recognised are no source, and so stand in the way of the next
run. -/
theorem run_again_channelFile :
    (oneFile channelFile).Distinct
      ∧ (∀ found, (oneFile channelFile).find
          (sampleCommand.settings.outputPath sampleCommand.directory) ≠ .ok found)
      ∧ (run (oneFile channelFile) sampleCommand).failure = none
      ∧ (run (run (oneFile channelFile) sampleCommand).store sampleCommand).failure =
          some (.error ["Failed to parse Go package in p"] (.malformed "p/mocks.go")) := by
  obtain ⟨succeeds, after⟩ := oneFile_run channelFile_produces
  refine ⟨oneFile_distinct _, oneFile_absent _, succeeds, ?_⟩
  have unloaded : load "p" (((oneFile channelFile).set ["p", "mocks.go"]
      (.file outputMode channelMocks.toUTF8)).list "p") = .error (.malformed "p/mocks.go") := by
    rw [oneFile_reload]
    decide +kernel
  have context : Plan.parseContext "p" = "Failed to parse Go package in p" := by decide
  rw [after, ← context]
  exact run_unloaded rfl unloaded

end InterfaceMocks
