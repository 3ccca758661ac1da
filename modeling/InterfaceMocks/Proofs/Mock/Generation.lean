import InterfaceMocks.Mock.Generate
import InterfaceMocks.Proofs.Mock.Canonical
import InterfaceMocks.Proofs.Mock.Filling
import InterfaceMocks.Proofs.Mock.Vocabulary

/-!
The generated file is the canonical text of the trees of the mocks file, and is read back as them.
-/

namespace InterfaceMocks.Mock

open InterfaceMocks.Syntax
open InterfaceMocks.Grammar
open InterfaceMocks.Written
open InterfaceMocks.Placeholder
open Spacing (emitted canonical)

structure Spacing.Suits (spacing : Spacing) : Prop where
  fits : spacing.Fits
  listing : spacing.Listing
  even : ∀ placeholder, spacing.Even placeholder
  settles : spacing.Settles
  covers : spacing.Covers

theorem Spacing.emitted_suits : emitted.Suits :=
  ⟨emitted_fits, emitted_listing, emitted_even, emitted_settles, emitted_covers⟩

theorem Spacing.canonical_suits : canonical.Suits :=
  ⟨canonical_fits, canonical_listing, canonical_even, canonical_settles, canonical_covers⟩

/-- The packages whose mocks are generated without loss. -/
structure Sound (package : Package) : Prop where
  name : IsName package.name
  imports : ∀ entry ∈ package.imports.entries, EntryWritable entry ∧ Clear entry.1
  clear : ∀ interface ∈ package.interfaces, InterfaceClear interface
  writable : ∀ {spacing : Spacing}, spacing.Suits → ∀ n, ∀ interface ∈ package.interfaces,
    InterfaceWritable spacing (interface.fill (candidate n))

theorem EntryWritable.clear {entry : String × String} (writable : EntryWritable entry)
    (path : Clear entry.1) : EntryClear entry where
  label := by
    rcases writable.label with none | dot | isName
    · exact none ▸ clear_spaces.1
    · exact dot ▸ clear_marks.2.2.2.2.2.2.2.2
    · exact clear_of_isName isName
  path := path

theorem trailing_blank (package : Package) : Blank (trailing package) := by
  rw [trailing]
  split <;> decide

section Files

variable {package : Package} (sound : Sound package) {spacing : Spacing} (suits : spacing.Suits)
  {entries? : Option (List (String × String))}
  (known : ∀ entries ∈ entries?, entries ⊆ package.imports.entries)

include sound suits known

theorem restTrees_filled (placeholder : String) :
    (restTrees spacing entries? package.interfaces).map (fillTree placeholder) =
      restTrees spacing entries? (package.interfaces.map (Interface.fill placeholder)) := by
  refine restTrees_fill placeholder suits.fits (suits.even placeholder) ?_ sound.clear
  intro entries found entry listed
  obtain ⟨writable, path⟩ := sound.imports entry (known entries found listed)
  exact writable.clear path

theorem restTrees_protectable (n : Nat) :
    ∀ tree ∈ restTrees spacing entries? package.interfaces, Protectable (candidate n) tree := by
  have imports (entries : List (String × String)) (found : entries ∈ entries?)
      (entry : String × String) (listed : entry ∈ entries) :=
    sound.imports entry (known entries found listed)
  have filled := restTrees_filled sound suits known (candidate n)
  have lines := restTrees_topLine suits.fits (fun entries found entry listed =>
    (imports entries found entry listed).1) (show ∀ interface ∈ package.interfaces.map
      (Interface.fill (candidate n)), InterfaceWritable spacing interface by
        intro interface member
        obtain ⟨original, found, rfl⟩ := List.mem_map.1 member
        exact sound.writable suits n original found)
  have separate := restTrees_separate (candidate n) suits.fits (suits.even _)
    (fun entries found entry listed => (imports entries found entry listed).1.clear
      (imports entries found entry listed).2) sound.clear
  intro tree member
  refine ⟨lines _ ?_, separate tree member⟩
  rw [← filled]
  exact List.mem_map_of_mem member

/-- However a mocks file is written, it is formatted as the text of its canonical trees. -/
theorem format_restTrees {trailing : String} (blank : Blank trailing) :
    format? (writtenOf (Written.package package.name
        :: restTrees spacing entries? package.interfaces) ++ trailing) =
      some (writtenOf (Written.package package.name
        :: restTrees canonical entries? package.interfaces) ++ "\n") := by
  refine format_source sound.name (restTrees_protectable sound suits known)
    (restTrees_protectable sound Spacing.canonical_suits known)
    (textsOf_restTrees suits.covers entries? package.interfaces) blank fun n => ?_
  rw [restTrees_filled sound suits known, restTrees_filled sound Spacing.canonical_suits known,
    file_restTrees suits.settles]

end Files

section Generated

variable {package : Package}

theorem imports_known : ∀ entries ∈ some package.imports.entries,
    entries ⊆ package.imports.entries := by
  rintro entries ⟨⟩
  exact List.Subset.refl _

variable (sound : Sound package)

include sound

/-- What is generated is the text of the trees with canonical white space. -/
theorem generate_eq : generate? package = some (writtenOf (mocks canonical package) ++ "\n") := by
  rw [generate?, ← writtenOf_mocks_emitted]
  exact format_restTrees sound Spacing.emitted_suits imports_known (trailing_blank package)

/-- What is generated is read back as the trees it is the text of. -/
theorem parse_generated (n : Nat) :
    Source.parse? (protect (candidate n) (writtenOf (mocks canonical package) ++ "\n")) =
      some ⟨mocks canonical (package.fill (candidate n)), gap "\n"⟩ := by
  have filled := restTrees_filled sound Spacing.canonical_suits imports_known (candidate n)
  have parsed := parse_protected sound.name
    (restTrees_protectable sound Spacing.canonical_suits imports_known n) blank_line
  rw [filled] at parsed
  exact parsed

end Generated

end InterfaceMocks.Mock
