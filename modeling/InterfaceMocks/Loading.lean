import InterfaceMocks.Extraction.Parsing
import InterfaceMocks.Files.Store

/-!
Loading a package from a directory. All source files of the directory are read in the order of their
names, and each must be readable. The first one says which package is meant; those that belong to
another are left out, and the others are put together.
-/

namespace InterfaceMocks.Loading

open InterfaceMocks.Extraction (FileContents parseFile parseRemarks)

def endsWith (s ending : String) : Bool := ending.toList.isSuffixOf s.toList

/-- Test files never contribute. A name with a line feed before the ending is not taken for one. -/
def isTestFile (name : String) : Bool :=
  endsWith name "_test.go" && !name.toList.contains '\n'

def isSourceName (name : String) : Bool := endsWith name ".go" && !isTestFile name

structure SourceFile where
  path : String
  contents : ByteArray

/-- The source files among the entries of a directory: regular files only, sorted by name. Names are
text here; a file whose name is not would be passed over, as one that is named otherwise. -/
def sourceFiles (directory : String) (entries : List (String × Node)) : List SourceFile :=
  let files := entries.filterMap fun entry =>
    match entry.2 with
    | .file _ contents => if isSourceName entry.1 then some (entry.1, contents) else none
    | _ => none
  (files.mergeSort fun first second => first.1 ≤ second.1).map fun file =>
    ⟨Path.join directory file.1, file.2⟩

def readFile (file : SourceFile) : Except Error FileContents :=
  match Text.Utf8.decode file.contents with
  | .error _ => .error .notText
  | .ok text => parseFile file.path text

def assemble : List FileContents → Package
  | [] => ⟨"", .empty, []⟩
  | first :: rest =>
      let chosen := (first :: rest).filter fun contents => contents.package = first.package
      { name := first.package
        imports :=
          chosen.foldl (fun imports contents => imports.extend contents.imports.entries) .empty
        interfaces := chosen.flatMap FileContents.interfaces }

/-- Reads all files, or stops at the first that cannot be read. -/
def readAll : List SourceFile → Except Error (List FileContents)
  | [] => .ok []
  | file :: rest =>
      (readFile file).bind fun contents => (readAll rest).map (contents :: ·)

def loadFiles (directory : String) (files : List SourceFile) : Except Error Package :=
  if files.isEmpty then .error (.noSources directory) else (readAll files).map assemble

abbrev Listing := Except OsError (List (String × Node))

def load (directory : String) : Listing → Except Error Package
  | .error error => .error (.unreadableDirectory directory error)
  | .ok entries => loadFiles directory (sourceFiles directory entries)

def skipped (file own chosen : String) : Log.Entry :=
  Log.warn s!"Skipping {file}: it belongs to package `{own}`, not `{chosen}`"

def fileRemarks : Option String → List SourceFile → List Log.Entry
  | _, [] => []
  | chosen, file :: rest =>
      let reading := Log.debug ("Parsing " ++ file.path)
      match Text.Utf8.decode file.contents with
      | .error _ => [reading]
      | .ok text =>
          match parseFile file.path text with
          | .error _ => reading :: parseRemarks text
          | .ok contents =>
              let chosen := chosen.getD contents.package
              let skip :=
                if contents.package = chosen then []
                else [skipped file.path contents.package chosen]
              reading :: (parseRemarks text ++ skip ++ fileRemarks (some chosen) rest)

def remarks (directory : String) : Listing → List Log.Entry
  | .error _ => []
  | .ok entries => fileRemarks none (sourceFiles directory entries)

end InterfaceMocks.Loading
