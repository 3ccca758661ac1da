import InterfaceMocks.Proofs.Loading.Merging
import InterfaceMocks.Run

/-!
What a run does to the file system. A run decides what to do before it changes anything, and the only
change is to write the output file. `Produces` says which bytes are written: those of the generated
mocks, pruned. A run that fails, or that only shows something, leaves the file system as it is.
-/

namespace InterfaceMocks

open InterfaceMocks.Loading (load)

namespace Store

theorem lookup_put (location other : Location) (node : Node) (entries : List (Location × Node)) :
    (put location node entries).lookup other =
      if other = location then some node else entries.lookup other := by
  induction entries with
  | nil => rw [put, lookup_cons_ite]
  | cons entry rest ih =>
      rw [put]
      by_cases here : entry.1 = location
      · rw [if_pos here, lookup_cons_ite, lookup_cons_ite, here]
        by_cases same : other = location <;> simp only [same, if_true, if_false]
      · rw [if_neg here, lookup_cons_ite, ih, lookup_cons_ite]
        by_cases same : other = location
        · simp only [same, Ne.symm here, if_true, if_false]
        · simp only [same, if_false]

/-- Setting a node changes what is at its location, and nothing else. -/
theorem node_set (store : Store) {location : Location} (below : location ≠ []) (node : Node)
    (other : Location) :
    (store.set location node).node? other =
      if other = location then some node else store.node? other := by
  by_cases root : other = []
  · subst root
    simp [node?, Ne.symm below]
  · simp [node?, root, set, lookup_put]

/-- A file is written where its path leads, or not at all. -/
theorem write_eq_ok {store after : Store} {path : String} {mode : Nat} {contents : ByteArray}
    (written : store.write path mode contents = .ok after) :
    ∃ target, store.resolve path = .ok target ∧ target.location ≠ []
      ∧ after = store.set target.location (.file mode contents) := by
  unfold write at written
  split at written
  · simp at written
  · rename_i target resolved
    have below (other : store.node? target.location ≠ some .directory) : target.location ≠ [] := by
      intro root
      exact other (by simp [node?, root])
    split at written
    · simp at written
    · rename_i found
      exact ⟨target, resolved, below (by simp [found]), (Except.ok.inj written).symm⟩
    · simp at written
    · rename_i found
      split at written
      · simp at written
      · exact ⟨target, resolved, below (by simp [found]), (Except.ok.inj written).symm⟩

end Store

/-- A pruner of this library makes the given bytes of a generated text. -/
inductive PrunedBy : Pruner → String → ByteArray → Prop where
  | builtin {text pruned : String} (succeeds : Pruning.prune text = .ok pruned) :
      PrunedBy .builtin text pruned.toUTF8
  | off (text : String) : PrunedBy .off text text.toUTF8

theorem decode_toUTF8 (text : String) : Text.Utf8.decode text.toUTF8 = .ok text := by
  have valid : String.fromUTF8? text.toUTF8 = some text := dif_pos text.isValidUTF8
  rw [Text.Utf8.decode, valid]

theorem builtin_eq_ok {path text : String} {bytes : ByteArray} :
    Pruning.builtin path text.toUTF8 = .ok bytes ↔ PrunedBy .builtin text bytes := by
  rw [Pruning.builtin, decode_toUTF8]
  constructor
  · intro made
    cases pruned : Pruning.prune text with
    | ok result =>
        obtain rfl : result.toUTF8 = bytes := by simpa [pruned] using made
        exact .builtin pruned
    | error failure => cases failure <;> simp [pruned] at made
  · rintro ⟨succeeds⟩
    simp [succeeds]

theorem pruning_eq_ok {script : Except OsError String} {settings : Settings} {path text : String}
    {bytes : ByteArray} (own : settings.pruner ≠ .tool) :
    Pruning.run script settings path text.toUTF8 = .ok bytes ↔
      PrunedBy settings.pruner text bytes := by
  unfold Pruning.run
  cases kind : settings.pruner with
  | builtin => exact builtin_eq_ok
  | tool => exact absurd kind own
  | off =>
      constructor
      · intro made
        obtain rfl := Except.ok.inj made
        exact .off text
      · rintro ⟨⟩
        rfl

/-- The bytes that a command line makes of a directory: its package has interfaces, and their mocks
are generated and pruned. -/
def Produces (store : Store) (command : CommandLine) (bytes : ByteArray) : Prop :=
  ∃ package text, load command.directory (store.list command.directory) = .ok package
    ∧ package.interfaces ≠ [] ∧ generate? package = some text
    ∧ PrunedBy command.settings.pruner text bytes

/-- What a command line produces, its run delivers. -/
theorem plan_of_produces {store : Store} {command : CommandLine} {bytes : ByteArray}
    (own : command.settings.pruner ≠ .tool) (generates : command.json = false)
    (produces : Produces store command bytes) :
    (plan (.ofStore store command) command).result =
      .ok (Plan.deliver command.settings (command.settings.outputPath command.directory) bytes) := by
  obtain ⟨package, text, loaded, some, generated, pruned⟩ := produces
  have listed : load command.directory (Surroundings.ofStore store command).listing = .ok package :=
    loaded
  have made : Pruning.run (Surroundings.ofStore store command).script command.settings
      (command.settings.outputPath command.directory) text.toUTF8 = .ok bytes :=
    (pruning_eq_ok own).2 pruned
  have nonempty : package.interfaces.isEmpty = false := by simpa using some
  unfold plan Plan.generate Plan.generatePackage
  simp only [generates, listed, nonempty, generated, made, Bool.false_eq_true, if_false]

/-- What a command line produces, its run writes or fails to write. -/
theorem run_eq_write {store after : Store} {command : CommandLine} {bytes : ByteArray}
    (own : command.settings.pruner ≠ .tool) (generates : command.json = false)
    (writes : command.settings.dryRun = false) (produces : Produces store command bytes) :
    store.write (command.settings.outputPath command.directory) outputMode bytes = .ok after ↔
      (run store command).failure = none ∧ (run store command).store = after := by
  unfold run Plan.carryOut
  rw [plan_of_produces own generates produces, Plan.deliver, if_neg (by simp [writes])]
  dsimp only
  cases store.write (command.settings.outputPath command.directory) outputMode bytes <;> simp

/-- What becomes of a command line: it fails, or shows the package, or finds no interfaces, or delivers
what it produces. -/
theorem plan_cases (store : Store) {command : CommandLine} (own : command.settings.pruner ≠ .tool) :
    (∃ failure, (plan (.ofStore store command) command).result = .error failure)
    ∨ (command.json = true
        ∧ ∃ bytes, (plan (.ofStore store command) command).result = .ok (.print bytes))
    ∨ (command.json = false
        ∧ (∃ package, load command.directory (store.list command.directory) = .ok package
            ∧ package.interfaces = [])
        ∧ (plan (.ofStore store command) command).result = .ok (.print .empty))
    ∨ (command.json = false ∧ ∃ bytes, Produces store command bytes) := by
  unfold plan
  by_cases shown : command.json = true
  · rw [if_pos shown]
    unfold Plan.inspect
    split
    · exact .inl ⟨_, rfl⟩
    · exact .inr (.inl ⟨shown, _, rfl⟩)
  · rw [if_neg shown]
    have generates : command.json = false := by simpa using shown
    unfold Plan.generate
    split
    · exact .inl ⟨_, rfl⟩
    · rename_i package loaded
      by_cases none : package.interfaces.isEmpty = true
      · rw [if_pos none]
        exact .inr (.inr (.inl ⟨generates, ⟨package, loaded, List.isEmpty_iff.1 none⟩, rfl⟩))
      · rw [if_neg none]
        unfold Plan.generatePackage
        split
        · exact .inl ⟨_, rfl⟩
        · rename_i text generated
          dsimp only
          split
          · exact .inl ⟨_, rfl⟩
          · rename_i bytes made
            have some : package.interfaces ≠ [] := by simpa using none
            exact .inr (.inr (.inr ⟨generates, bytes, package, text, loaded, some, generated,
              (pruning_eq_ok own).1 made⟩))

/-- A run leaves the file system as it is, or has written what it produced where its output path
leads. -/
theorem run_cases (store : Store) {command : CommandLine} (own : command.settings.pruner ≠ .tool) :
    ((run store command).store = store
        ∧ ((run store command).failure ≠ none ∨ command.json = true
            ∨ command.settings.dryRun = true
            ∨ ∃ package, load command.directory (store.list command.directory) = .ok package
                ∧ package.interfaces = []))
    ∨ (command.json = false ∧ command.settings.dryRun = false ∧ (run store command).failure = none
        ∧ ∃ bytes target, Produces store command bytes
          ∧ store.resolve (command.settings.outputPath command.directory) = .ok target
          ∧ target.location ≠ []
          ∧ (run store command).store = store.set target.location (.file outputMode bytes)) := by
  unfold run Plan.carryOut
  rcases plan_cases store own with ⟨failure, planned⟩ | ⟨shown, bytes, planned⟩
    | ⟨-, none, planned⟩ | ⟨generates, bytes, produces⟩
  · rw [planned]
    exact .inl ⟨rfl, .inl (by simp)⟩
  · rw [planned]
    exact .inl ⟨rfl, .inr (.inl shown)⟩
  · rw [planned]
    exact .inl ⟨rfl, .inr (.inr (.inr none))⟩
  · rw [plan_of_produces own generates produces, Plan.deliver]
    by_cases shown : command.settings.dryRun = true
    · rw [if_pos shown]
      exact .inl ⟨rfl, .inr (.inr (.inl shown))⟩
    · rw [if_neg shown]
      dsimp only
      split
      · exact .inl ⟨rfl, .inl (by simp)⟩
      · rename_i after wrote
        obtain ⟨target, resolved, below, rfl⟩ := Store.write_eq_ok wrote
        exact .inr ⟨generates, by simpa using shown, rfl, bytes, target, produces, resolved, below,
          rfl⟩

/-- The command line with the option that only shows what would be written. -/
def CommandLine.dry (command : CommandLine) : CommandLine :=
  { command with settings := { command.settings with dryRun := true } }

theorem run_dry {store : Store} {command : CommandLine} {bytes : ByteArray}
    (own : command.settings.pruner ≠ .tool) (generates : command.json = false)
    (produces : Produces store command bytes) :
    (run store command.dry).failure = none ∧ (run store command.dry).output = bytes := by
  have planned := @plan_of_produces store command.dry bytes own generates produces
  unfold run Plan.carryOut
  rw [planned]
  exact ⟨rfl, rfl⟩

/-- A run touches at most its output file, and a run that fails or only shows something touches
nothing. The output file then holds what was generated, which is also what a dry run shows. -/
theorem run_frame (store : Store) (command : CommandLine) (own : command.settings.pruner ≠ .tool) :
    ((run store command).failure ≠ none ∨ command.json = true ∨ command.settings.dryRun = true
        ∨ (∃ package, load command.directory (store.list command.directory) = .ok package
            ∧ package.interfaces = []) →
      (run store command).store = store)
    ∧ ((run store command).failure = none → command.json = false →
        command.settings.dryRun = false →
        (∀ package, load command.directory (store.list command.directory) = .ok package →
          package.interfaces ≠ []) →
        ∃ bytes target, Produces store command bytes
          ∧ store.resolve (command.settings.outputPath command.directory) = .ok target
          ∧ (run store command).store = store.set target.location (.file 0o644 bytes)
          ∧ (run store command).store.node? target.location = some (.file 0o644 bytes)
          ∧ (∀ other ≠ target.location,
              (run store command).store.node? other = store.node? other)
          ∧ (run store command.dry).failure = none ∧ (run store command.dry).output = bytes) := by
  rcases run_cases store own with ⟨unchanged, why⟩ |
    ⟨generates, written, succeeds, bytes, target, produces, resolved, below, after⟩
  · refine ⟨fun _ => unchanged, fun succeeds generates written some => ?_⟩
    rcases why with failed | shown | dry | ⟨package, loaded, none⟩
    · exact absurd succeeds failed
    · simp [generates] at shown
    · simp [written] at dry
    · exact absurd none (some package loaded)
  · constructor
    · rintro (failed | shown | dry | ⟨package, loaded, none⟩)
      · exact absurd succeeds failed
      · simp [generates] at shown
      · simp [written] at dry
      · obtain ⟨package', -, loaded', some, -⟩ := produces
        obtain rfl := Except.ok.inj (loaded.symm.trans loaded')
        exact absurd none some
    · intro _ _ _ _
      refine ⟨bytes, target, produces, resolved, after, ?_, ?_, run_dry own generates produces⟩
      · rw [after, Store.node_set store below, if_pos rfl]
        rfl
      · intro other different
        rw [after, Store.node_set store below, if_neg different]

/-- A file system with one source file, in the directory `p`. -/
def oneFile (contents : ByteArray) : Store :=
  { entries := [(["p"], .directory), (["p", "a.go"], .file 0o600 contents)] }

def sampleCommand : CommandLine := ⟨"p", {}, false⟩

section OneFile

variable {contents : ByteArray}

theorem oneFile_directory : (oneFile contents).resolve "p" = .ok ⟨["p"], true⟩ := by
  have names : Path.split "p" = ["p"] := by decide
  simp [Store.resolve, Store.start, Path.isAbsolute, names, Store.walk, Store.node?, oneFile]
  decide

theorem oneFile_list : (oneFile contents).list "p" = .ok [("a.go", .file 0o600 contents)] := by
  rw [Store.list, Store.find, oneFile_directory]
  rfl

theorem oneFile_resolve :
    (oneFile contents).resolve "p/mocks.go" = .ok ⟨["p", "mocks.go"], false⟩ := by
  have names : Path.split "p/mocks.go" = ["p", "mocks.go"] := by decide
  simp [Store.resolve, Store.start, Path.isAbsolute, names, Store.walk, Store.node?, oneFile]
  rfl

theorem oneFile_load :
    load "p" ((oneFile contents).list "p") =
      (Loading.readFile ⟨"p/a.go", contents⟩).map fun found => Loading.assemble [found] := by
  have named : Loading.isSourceName "a.go" = true := by decide
  have path : Path.join "p" "a.go" = "p/a.go" := by decide
  have files : Loading.sourceFiles "p" [("a.go", .file 0o600 contents)] =
      [⟨"p/a.go", contents⟩] := by
    simp [Loading.sourceFiles, named, path]
  rw [oneFile_list, load, files, Loading.loadFiles, if_neg (by simp), Loading.readAll]
  cases Loading.readFile ⟨"p/a.go", contents⟩ <;> rfl

theorem oneFile_run {bytes : ByteArray} (produces : Produces (oneFile contents) sampleCommand bytes) :
    (run (oneFile contents) sampleCommand).failure = none
      ∧ (run (oneFile contents) sampleCommand).store =
          (oneFile contents).set ["p", "mocks.go"] (.file outputMode bytes) := by
  refine (run_eq_write (by decide) rfl rfl produces).1 ?_
  have path : sampleCommand.settings.outputPath sampleCommand.directory = "p/mocks.go" := by decide
  rw [path, Store.write, oneFile_resolve]
  rfl

end OneFile

def sampleFile : ByteArray := "package p\ntype A interface \x7b\n\x7d\n".toUTF8

def sampleStore : Store := oneFile sampleFile

def sampleDescriptor : Package where
  name := "p"
  imports := .empty
  interfaces := [⟨"A", []⟩]

theorem load_sampleStore : load "p" (sampleStore.list "p") = .ok sampleDescriptor := by
  rw [sampleStore, oneFile_load]
  decide +kernel

theorem sample_produces : ∃ bytes, Produces sampleStore sampleCommand bytes := by
  have made : ((generate? sampleDescriptor).bind fun text =>
      (Pruning.prune text).toOption).isSome = true := by decide +kernel
  obtain ⟨final, both⟩ := Option.isSome_iff_exists.1 made
  obtain ⟨text, generated, pruned⟩ := Option.bind_eq_some_iff.1 both
  cases succeeds : Pruning.prune text with
  | error failure => simp [succeeds, Except.toOption] at pruned
  | ok result =>
      exact ⟨_, sampleDescriptor, text, load_sampleStore, by decide, generated, .builtin succeeds⟩

theorem sample_succeeds : (run sampleStore sampleCommand).failure = none := by
  obtain ⟨bytes, produces⟩ := sample_produces
  exact (oneFile_run produces).1

theorem run_frame_sample :
    sampleCommand.settings.pruner ≠ .tool ∧ (run sampleStore sampleCommand).failure = none
      ∧ ∃ bytes target, Produces sampleStore sampleCommand bytes
          ∧ sampleStore.resolve "p/mocks.go" = .ok target
          ∧ (run sampleStore sampleCommand).store =
              sampleStore.set target.location (.file 0o644 bytes)
          ∧ (run sampleStore sampleCommand).store.node? target.location =
              some (.file 0o644 bytes)
          ∧ (∀ other ≠ target.location,
              (run sampleStore sampleCommand).store.node? other = sampleStore.node? other)
          ∧ (run sampleStore sampleCommand.dry).failure = none
          ∧ (run sampleStore sampleCommand.dry).output = bytes := by
  refine ⟨by decide, sample_succeeds, ?_⟩
  refine (run_frame sampleStore sampleCommand (by decide)).2 sample_succeeds rfl rfl ?_
  intro package loaded
  obtain rfl := Except.ok.inj (load_sampleStore.symm.trans loaded)
  decide

end InterfaceMocks
