import InterfaceMocks.Proofs.Extraction.PackageClause
import InterfaceMocks.Proofs.Loading.Merging
import InterfaceMocks.Proofs.Text.ByteOrder

/-!
Loading a directory does not depend on the order in which its entries come, nor on anything in it but
its source files. These are read in the order of their names: the first that cannot be read is the
error of the whole, and if there is none they are folded into one package, of which the first file
gives the name.
-/

namespace InterfaceMocks.Loading

open InterfaceMocks.Syntax
open InterfaceMocks.Grammar (Source)
open InterfaceMocks.Extraction (FileContents contents importsIn interfacesIn parseFile
  missingPackage package_eq_empty_iff lookup_contents)
open InterfaceMocks.Text (bytes bytes_lt_iff)

/-! The source files of a directory. -/

/-- The source files among the entries of a directory, by the bytes of their names. -/
structure IsScan (entries : List (String × Node)) (files : List (String × ByteArray)) : Prop where
  sorted : files.Pairwise fun first second => bytes first.1 < bytes second.1
  mem_iff : ∀ name contents, (name, contents) ∈ files ↔
    endsWith name ".go" = true ∧ isTestFile name = false
      ∧ ∃ mode, (name, Node.file mode contents) ∈ entries

theorem IsScan.unique {entries : List (String × Node)} {files others : List (String × ByteArray)}
    (scan : IsScan entries files) (other : IsScan entries others) : files = others := by
  have strict {list : List (String × ByteArray)} (isScan : IsScan entries list) :
      list.Pairwise fun first second => first.1 < second.1 :=
    isScan.sorted.imp bytes_lt_iff.1
  have nodup {list : List (String × ByteArray)} (isScan : IsScan entries list) : list.Nodup :=
    (strict isScan).imp fun less same => String.ne_of_lt less (congrArg Prod.fst same)
  have perm : files.Perm others := by
    rw [List.perm_ext_iff_of_nodup (nodup scan) (nodup other)]
    intro file
    rw [scan.mem_iff file.1 file.2, other.mem_iff file.1 file.2]
  apply perm.eq_of_pairwise _ (strict scan) (strict other)
  intro first second _ _ before after
  exact absurd (String.lt_trans before after) (String.lt_irrefl _)

def asSource? (entry : String × Node) : Option (String × ByteArray) :=
  match entry.2 with
  | .file _ contents => if isSourceName entry.1 then some (entry.1, contents) else none
  | _ => none

def scanned (entries : List (String × Node)) : List (String × ByteArray) :=
  (entries.filterMap asSource?).mergeSort fun first second => first.1 ≤ second.1

theorem sourceFiles_eq (directory : String) (entries : List (String × Node)) :
    sourceFiles directory entries =
      (scanned entries).map fun file => ⟨Path.join directory file.1, file.2⟩ := rfl

theorem asSource_eq_some {entry : String × Node} {file : String × ByteArray} :
    asSource? entry = some file ↔
      isSourceName file.1 = true ∧ ∃ mode, entry = (file.1, .file mode file.2) := by
  obtain ⟨own, node⟩ := entry
  obtain ⟨name, contents⟩ := file
  cases node with
  | file mode bytes =>
      by_cases source : isSourceName own = true
      · simp only [asSource?, source, if_true, Option.some.injEq, Prod.mk.injEq, Node.file.injEq]
        constructor
        · rintro ⟨rfl, rfl⟩
          exact ⟨source, mode, rfl, rfl, rfl⟩
        · rintro ⟨-, _, rfl, -, rfl⟩
          exact ⟨rfl, rfl⟩
      · simp only [asSource?, source, Prod.mk.injEq]
        constructor
        · intro impossible
          simp at impossible
        · rintro ⟨other, _, rfl, -⟩
          exact absurd other source
  | directory | link target => simp [asSource?]

theorem keys_sublist (entries : List (String × Node)) :
    ((entries.filterMap asSource?).map Prod.fst).Sublist (entries.map Prod.fst) := by
  induction entries with
  | nil => simp
  | cons entry rest ih =>
      cases found : asSource? entry with
      | none =>
          rw [List.filterMap_cons_none found]
          exact ih.cons _
      | some file =>
          obtain ⟨-, mode, same⟩ := asSource_eq_some.1 found
          rw [List.filterMap_cons_some found, List.map_cons, List.map_cons, same]
          exact ih.cons_cons _

theorem isScan_scanned {entries : List (String × Node)} (distinct : (entries.map Prod.fst).Nodup) :
    IsScan entries (scanned entries) := by
  have perm : (scanned entries).Perm (entries.filterMap asSource?) := List.mergeSort_perm _ _
  constructor
  · have sorted : (scanned entries).Pairwise fun first second => first.1 ≤ second.1 := by
      have merged := @List.pairwise_mergeSort _
        (fun first second : String × ByteArray => decide (first.1 ≤ second.1))
        (fun _ _ _ before after => by
          simpa using String.le_trans (by simpa using before) (by simpa using after))
        (fun first second => by simpa using String.le_total first.1 second.1)
        (entries.filterMap asSource?)
      simpa [scanned] using merged
    have keys : ((scanned entries).map Prod.fst).Nodup :=
      ((perm.map Prod.fst).nodup_iff).2 ((keys_sublist entries).nodup distinct)
    refine sorted.imp₂ ?_ (List.pairwise_map.1 keys)
    intro first second le ne
    exact bytes_lt_iff.2 (Std.lt_of_le_of_ne le ne)
  · intro name contents
    rw [perm.mem_iff, List.mem_filterMap]
    simp only [asSource_eq_some, isSourceName, Bool.and_eq_true, Bool.not_eq_true']
    constructor
    · rintro ⟨entry, member, ⟨go, test⟩, mode, rfl⟩
      exact ⟨go, test, mode, member⟩
    · rintro ⟨go, test, mode, member⟩
      exact ⟨_, member, ⟨go, test⟩, mode, rfl⟩

/-! Reading one file. -/

/-- Why a source file stops the loading of its directory. -/
inductive Fault (directory : String) : String × ByteArray → Error → Prop where
  | notText {name contents} (undecoded : String.fromUTF8? contents = none) :
      Fault directory (name, contents) .notText
  | malformed {name contents text} (decoded : String.fromUTF8? contents = some text)
      (unread : Source.parse? text = none) :
      Fault directory (name, contents) (.malformed (Path.join directory name))
  | missingPackage {name contents text source} (decoded : String.fromUTF8? contents = some text)
      (parsed : Source.parse? text = some source)
      (none : ∀ tree ∈ source.trees, tree.kind ≠ .packageClause) :
      Fault directory (name, contents) (missingPackage (Path.join directory name) source)

/-- A file has the given source, which has a package clause. -/
def Reads (file : String × ByteArray) (source : Source) : Prop :=
  ∃ text, String.fromUTF8? file.2 = some text ∧ Source.parse? text = some source
    ∧ ∃ tree ∈ source.trees, tree.kind = .packageClause

def located (directory : String) (file : String × ByteArray) : SourceFile :=
  ⟨Path.join directory file.1, file.2⟩

variable {directory : String}

theorem readFile_of_fault {file : String × ByteArray} {error : Error}
    (fault : Fault directory file error) : readFile (located directory file) = .error error := by
  cases fault with
  | notText undecoded => simp [readFile, located, Text.Utf8.decode, undecoded]
  | malformed decoded unread =>
      simp [readFile, located, Text.Utf8.decode, decoded, parseFile, unread]
  | missingPackage decoded parsed none =>
      have unnamed := (package_eq_empty_iff parsed).2 none
      simp [readFile, located, Text.Utf8.decode, decoded, parseFile, parsed, unnamed]

theorem readFile_of_reads {file : String × ByteArray} {source : Source} (reads : Reads file source) :
    readFile (located directory file) = .ok (contents source) := by
  obtain ⟨text, decoded, parsed, tree, member, clause⟩ := reads
  have named : (contents source).package ≠ "" := fun unnamed =>
    (package_eq_empty_iff parsed).1 unnamed tree member clause
  simp [readFile, located, Text.Utf8.decode, decoded, parseFile, parsed, named]

theorem fault_or_reads (directory : String) (file : String × ByteArray) :
    (∃ error, Fault directory file error) ∨ ∃ source, Reads file source := by
  cases decoded : String.fromUTF8? file.2 with
  | none => exact .inl ⟨_, .notText decoded⟩
  | some text =>
      cases parsed : Source.parse? text with
      | none => exact .inl ⟨_, .malformed decoded parsed⟩
      | some source =>
          by_cases clause : ∃ tree ∈ source.trees, tree.kind = .packageClause
          · exact .inr ⟨source, text, decoded, parsed, clause⟩
          · refine .inl ⟨_, .missingPackage decoded parsed fun tree member same => ?_⟩
            exact clause ⟨tree, member, same⟩

/-! Reading all files. -/

/-- Either all files can be read, or one is the first that cannot. -/
theorem first_fault_or_reads (directory : String) (files : List (String × ByteArray)) :
    (∃ before file after error, files = before ++ file :: after
        ∧ (∀ earlier ∈ before, ∃ source, Reads earlier source) ∧ Fault directory file error)
      ∨ ∃ sources, List.Forall₂ Reads files sources := by
  induction files with
  | nil => exact .inr ⟨[], .nil⟩
  | cons file files ih =>
      rcases fault_or_reads directory file with ⟨error, fault⟩ | ⟨source, reads⟩
      · exact .inl ⟨[], file, files, error, rfl, by simp, fault⟩
      · rcases ih with ⟨before, later, after, error, rfl, earlier, fault⟩ | ⟨sources, all⟩
        · refine .inl ⟨file :: before, later, after, error, rfl, ?_, fault⟩
          intro other member
          rcases List.mem_cons.1 member with rfl | member
          · exact ⟨source, reads⟩
          · exact earlier other member
        · exact .inr ⟨source :: sources, .cons reads all⟩

theorem readAll_of_fault {before after : List (String × ByteArray)} {file : String × ByteArray}
    {error : Error} (earlier : ∀ other ∈ before, ∃ source, Reads other source)
    (fault : Fault directory file error) :
    readAll ((before ++ file :: after).map (located directory)) = .error error := by
  induction before with
  | nil => simp [readAll, readFile_of_fault fault, Except.bind]
  | cons other before ih =>
      obtain ⟨source, reads⟩ := earlier other List.mem_cons_self
      have rest := ih fun another member => earlier another (List.mem_cons_of_mem _ member)
      rw [List.cons_append, List.map_cons, readAll, readFile_of_reads reads, rest]
      rfl

theorem readAll_of_reads {files : List (String × ByteArray)} {sources : List Source}
    (reads : List.Forall₂ Reads files sources) :
    readAll (files.map (located directory)) = .ok (sources.map contents) := by
  induction reads with
  | nil => rfl
  | cons here _ ih =>
      rw [List.map_cons, readAll, readFile_of_reads here, ih]
      rfl

/-! The package of a directory. -/

/-- Whether a source adds imports to a package: it is of the package and declares an interface. -/
def Contributes (package : String) (source : Source) : Bool :=
  (contents source).package = package && !(interfacesIn source).isEmpty

/-- What becomes of the source files of a directory, given in order. -/
structure LoadedFrom (directory : String) (files : List (String × ByteArray))
    (result : Except Error Package) : Prop where
  nothing : files = [] → result = .error (.noSources directory)
  faulty : (∃ file ∈ files, ∃ error, Fault directory file error) →
    ∃ before file after error, files = before ++ file :: after
      ∧ (∀ earlier ∈ before, ¬ ∃ error, Fault directory earlier error)
      ∧ Fault directory file error ∧ result = .error error
  sound : files ≠ [] → (∀ file ∈ files, ¬ ∃ error, Fault directory file error) →
    ∃ sources package, List.Forall₂ Reads files sources ∧ result = .ok package
      ∧ sources.head?.map (fun source => (contents source).package) = some package.name
      ∧ package.interfaces =
          (sources.filter fun source => (contents source).package = package.name).flatMap interfacesIn
      ∧ ∀ path, package.imports.entries.lookup path =
          (sources.filter (Contributes package.name)).reverse.findSome?
            fun source => Imports.lastAlias (importsIn source) path

theorem fault_excludes {file : String × ByteArray} {source : Source} (reads : Reads file source) :
    ¬ ∃ error, Fault directory file error := by
  rintro ⟨error, fault⟩
  have clash := (readFile_of_fault fault).symm.trans (readFile_of_reads reads)
  simp at clash

theorem lookup_assembled (first : Source) (sources : List Source) (path : String) :
    (assemble ((first :: sources).map contents)).imports.entries.lookup path =
      ((first :: sources).filter (Contributes (contents first).package)).reverse.findSome?
        fun source => Imports.lastAlias (importsIn source) path := by
  have merged := lookup_merged
    (((first :: sources).map contents).filter fun file => file.package = (contents first).package)
    .empty path
  refine merged.trans ?_
  rw [List.filter_map, ← List.map_reverse, List.findSome?_map, ← List.filter_reverse,
    ← List.filter_reverse]
  refine Option.or_none.trans ?_
  -- a source of the package without interfaces is looked into, but gives nothing
  induction (first :: sources).reverse with
  | nil => rfl
  | cons source rest ih =>
      by_cases same : (contents source).package = (contents first).package
      · by_cases none : interfacesIn source = []
        · rw [List.filter_cons_of_pos (by simp [same]), List.filter_cons_of_neg (by simp [Contributes, none]),
            List.findSome?_cons, Function.comp_apply, lookup_contents, if_pos none]
          exact ih
        · rw [List.filter_cons_of_pos (by simp [same]),
            List.filter_cons_of_pos (by simp [Contributes, same, none]), List.findSome?_cons,
            List.findSome?_cons, Function.comp_apply, lookup_contents, if_neg none, ih]
      · rw [List.filter_cons_of_neg (by simp [same]),
          List.filter_cons_of_neg (by simp [Contributes, same])]
        exact ih

theorem interfaces_assembled (first : Source) (sources : List Source) :
    (assemble ((first :: sources).map contents)).interfaces =
      ((first :: sources).filter fun source =>
        (contents source).package = (contents first).package).flatMap interfacesIn := by
  simp only [assemble, List.map_cons]
  rw [← List.map_cons, List.filter_map, List.flatMap_map]
  rfl

theorem reads_of_mem {files : List (String × ByteArray)} {sources : List Source}
    (reads : List.Forall₂ Reads files sources) {file : String × ByteArray} (member : file ∈ files) :
    ∃ source, Reads file source := by
  induction reads with
  | nil => simp at member
  | cons here _ ih =>
      rcases List.mem_cons.1 member with rfl | later
      · exact ⟨_, here⟩
      · exact ih later

theorem loadFiles_loadedFrom (directory : String) (files : List (String × ByteArray)) :
    LoadedFrom directory files (loadFiles directory (files.map (located directory))) where
  nothing none := by
    subst none
    rfl
  faulty := by
    rintro ⟨file, member, error, fault⟩
    rcases first_fault_or_reads directory files with
      ⟨before, first, after, error, rfl, earlier, fault⟩ | ⟨sources, reads⟩
    · refine ⟨before, first, after, error, rfl, ?_, fault, ?_⟩
      · intro other among
        obtain ⟨source, reads⟩ := earlier other among
        exact fault_excludes reads
      · rw [loadFiles, if_neg (by simp), readAll_of_fault earlier fault]
        rfl
    · obtain ⟨source, here⟩ := reads_of_mem reads member
      exact absurd ⟨error, fault⟩ (fault_excludes here)
  sound := by
    intro some sound
    rcases first_fault_or_reads directory files with
      ⟨before, first, after, error, rfl, earlier, fault⟩ | ⟨sources, reads⟩
    · exact absurd ⟨error, fault⟩ (sound first (by simp))
    · cases reads with
      | nil => exact absurd rfl some
      | @cons file source files sources here rest =>
          refine ⟨source :: sources, assemble ((source :: sources).map contents), .cons here rest, ?_,
            rfl, interfaces_assembled source sources, lookup_assembled source sources⟩
          rw [loadFiles, if_neg (by simp), readAll_of_reads (.cons here rest)]
          rfl

theorem load_loadedFrom (directory : String) (entries : List (String × Node)) :
    LoadedFrom directory (scanned entries) (load directory (.ok entries)) :=
  loadFiles_loadedFrom directory (scanned entries)

/-- Loading a directory is a fold over its source files in the order of their names. It gives the same
for every directory with these source files, in whatever order its entries come. -/
theorem load_fold (directory : String) {entries : List (String × Node)}
    (distinct : (entries.map Prod.fst).Nodup) :
    ∃ files, IsScan entries files ∧ LoadedFrom directory files (load directory (.ok entries))
      ∧ ∀ others : List (String × Node), (others.map Prod.fst).Nodup → IsScan others files →
          load directory (.ok others) = load directory (.ok entries) := by
  refine ⟨scanned entries, isScan_scanned distinct, load_loadedFrom directory entries, ?_⟩
  intro others distinct' scan
  have same : scanned others = scanned entries := (isScan_scanned distinct').unique scan
  rw [load, load, sourceFiles_eq, sourceFiles_eq, same]

/-- Two files of one package, of which the second renames what the first imports. -/
def firstSample : String × ByteArray :=
  ("a.go", "package p\nimport x \"m\"\ntype A interface \x7b\n\tF(v x.T)\n\x7d\n".toUTF8)

def secondSample : String × ByteArray :=
  ("b.go", "package p\nimport y \"m\"\nvar v y.T\ntype B interface \x7b\n\tG()\n\x7d\n".toUTF8)

/-- A directory with these two out of order, and with a link, a test file, a text that is no source and
a directory. -/
def sampleEntries : List (String × Node) :=
  [(secondSample.1, .file 0o644 secondSample.2), ("c.go", .link "b.go"),
   (firstSample.1, .file 0o600 firstSample.2), ("a_test.go", .file 0o644 .empty),
   ("notes.md", .file 0o644 .empty), ("sub.go", .directory)]

theorem isScan_sample : IsScan sampleEntries [firstSample, secondSample] := by
  constructor
  · decide +kernel
  · intro name contents
    simp only [List.mem_cons, List.not_mem_nil, or_false, firstSample, secondSample, Prod.mk.injEq]
    constructor
    · rintro (⟨rfl, rfl⟩ | ⟨rfl, rfl⟩)
      · exact ⟨by decide, by decide, 0o600, by simp [sampleEntries, firstSample]⟩
      · exact ⟨by decide, by decide, 0o644, by simp [sampleEntries, secondSample]⟩
    · rintro ⟨go, test, mode, member⟩
      simp only [sampleEntries, List.mem_cons, List.not_mem_nil, or_false, Prod.mk.injEq,
        Node.file.injEq, reduceCtorEq, and_false, false_or] at member
      rcases member with ⟨rfl, -, rfl⟩ | ⟨rfl, -, rfl⟩ | ⟨rfl, -, -⟩ | ⟨rfl, -, -⟩
      · exact .inr ⟨rfl, rfl⟩
      · exact .inl ⟨rfl, rfl⟩
      · exact absurd test (by decide)
      · exact absurd go (by decide)

theorem scanned_sample : scanned sampleEntries = [firstSample, secondSample] :=
  (isScan_scanned (by decide)).unique isScan_sample

theorem load_fold_sample :
    (sampleEntries.map Prod.fst).Nodup
      ∧ ∃ files, IsScan sampleEntries files
        ∧ LoadedFrom "p" files (load "p" (.ok sampleEntries))
        ∧ ∀ others : List (String × Node), (others.map Prod.fst).Nodup → IsScan others files →
            load "p" (.ok others) = load "p" (.ok sampleEntries) :=
  ⟨by decide, load_fold "p" (by decide)⟩

end InterfaceMocks.Loading
