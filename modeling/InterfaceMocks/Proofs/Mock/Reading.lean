import InterfaceMocks.Proofs.Mock.Names
import InterfaceMocks.Proofs.Mock.Trees
import InterfaceMocks.Proofs.Written.Sources

/-!
The text of the trees of a mocks file is read back as these trees, whatever white space they are
written with, as long as it breaks the lines that must be broken and no others.
-/

namespace InterfaceMocks.Mock

open InterfaceMocks.Syntax
open InterfaceMocks.Written
open InterfaceMocks.Grammar

structure Ends (space : String) : Prop where
  blank : Blank space
  line : breaks space = true

theorem Ends.apart {space : String} (ends : Ends space) : Apart space where
  blank := ends.blank
  some := by
    rintro rfl
    exact absurd ends.line (by decide)

structure Spacing.Fits (spacing : Spacing) : Prop where
  importKeyword : Ends spacing.importKeyword
  importLine : ∀ label, Ends (spacing.importLine label)
  importEnd : ∀ none, Blank (spacing.importEnd none)
  importsEnd : Ends (spacing.importEnd false)
  typeKeyword : ∀ first, Ends (spacing.typeKeyword first)
  brace : ∀ none, Blank (spacing.brace none)
  braceEnd : ∀ none, Blank (spacing.braceEnd none)
  fieldsEnd : Ends (spacing.braceEnd false)
  field : Ends spacing.field
  fieldType : ∀ width name, Apart (spacing.fieldType width name)
    ∧ breaks (spacing.fieldType width name) = false
  unnamed : Blank spacing.unnamed
  func : ∀ first, Ends (spacing.func first)
  body : Blank spacing.body

theorem ends_line : Ends "\n" := ⟨by decide, by decide⟩

theorem ends_tab : Ends "\n\t" := ⟨by decide, by decide⟩

theorem ends_paragraph : Ends "\n\n" := ⟨by decide, by decide⟩

theorem Spacing.emitted_fits : Spacing.emitted.Fits where
  importKeyword := ends_line
  importLine label := by
    by_cases none : label = ""
    · simp only [emitted, none, if_true]
      exact ⟨by decide, by decide⟩
    · simp only [emitted, none, if_false]
      exact ends_line
  importEnd _ := blank_line
  importsEnd := ends_line
  typeKeyword first := by
    cases first with
    | false => exact ends_paragraph
    | true => exact ends_line
  brace _ := blank_space
  braceEnd _ := blank_line
  fieldsEnd := ends_line
  field := ends_line
  fieldType _ _ := ⟨⟨blank_space, (by decide : " " ≠ "")⟩, breaks_blank⟩
  unnamed := blank_space
  func _ := ends_line
  body := blank_line

theorem spaces_blank (count : Nat) : Apart (Layout.spaces count ++ " ")
    ∧ breaks (Layout.spaces count ++ " ") = false := by
  have chars : ∀ c ∈ (Layout.spaces count ++ " ").toList, c = ' ' := by
    intro c member
    simp only [Layout.spaces, String.toList_append, String.toList_ofList, List.mem_append] at member
    rcases member with padding | last
    · exact (List.mem_replicate.1 padding).2
    · simpa using last
  refine ⟨⟨?_, ?_⟩, ?_⟩
  · rw [Blank, List.all_eq_true]
    intro c member
    rw [chars c member]
    decide
  · intro empty
    exact absurd (congrArg String.toList empty) (by simp)
  · rw [breaks, List.contains_eq_any_beq, List.any_eq_false]
    intro c member
    rw [chars c member]
    decide

theorem Spacing.canonical_fits : Spacing.canonical.Fits where
  importKeyword := ends_paragraph
  importLine _ := ends_tab
  importEnd none := by cases none <;> decide
  importsEnd := ends_line
  typeKeyword _ := ends_paragraph
  brace none := by cases none <;> decide
  braceEnd none := by cases none <;> decide
  fieldsEnd := ends_line
  field := ends_tab
  fieldType width name := spaces_blank (width - name.length)
  unnamed := blank_nothing
  func first := by
    cases first with
    | false => exact ends_line
    | true => exact ends_paragraph
  body := ends_tab.blank

/-! Signatures. -/

def Uniform (params : List Param) : Prop :=
  (∀ param ∈ params, param.name ≠ "") ∨ ∀ param ∈ params, param.name = ""

structure ParamReads (param : Param) : Prop where
  name : param.name ≠ "" → param.name ∉ typeWords
  type : TypeReadable param.type

structure ParamSpelled (param : Param) : Prop where
  name : param.name ≠ "" → IsName param.name
  type : TypeSpelled param.type

section Slots

variable {spacing : Spacing}

theorem slot_reads (first : Bool) {param : Param} (reads : ParamReads param) :
    (slot spacing first param).Readable := by
  by_cases unnamed : param.name = ""
  · rw [slot, if_pos unnamed]
    exact ⟨by simp, by simp, reads.type⟩
  · have plain := reads.name unnamed
    rw [slot, if_neg unnamed]
    refine ⟨?_, ?_, reads.type⟩
    · simpa using plain
    · rintro text member rfl
      obtain same : "map" = param.name := by simpa using member
      exact plain (same ▸ by simp [typeWords])

theorem slot_spelled (blank : Blank spacing.unnamed) (first : Bool) {param : Param}
    (spelled : ParamSpelled param) : (slot spacing first param).Spelled := by
  have start : Blank (if first then "" else " ") := by cases first <;> decide
  by_cases unnamed : param.name = ""
  · rw [slot, if_pos unnamed]
    refine ⟨?_, by simp, spelled.type⟩
    simp only [Blank, String.toList_append, List.all_append, Bool.and_eq_true]
    exact ⟨start, blank⟩
  · rw [slot, if_neg unnamed]
    refine ⟨start, ?_, spelled.type⟩
    simpa using spelled.name unnamed

theorem slots_read {params : List Param} (reads : ∀ param ∈ params, ParamReads param)
    (uniform : Uniform params) : SlotsReadable (spread (slot spacing) params) := by
  rcases uniform with named | unnamed
  · refine slotsReadable_named fun other member => ?_
    obtain ⟨first, param, found, rfl⟩ := mem_spread member
    exact ⟨slot_reads first (reads param found), by simp [slot, named param found]⟩
  · refine (slotsReadable_unnamed fun other member => ?_).1
    obtain ⟨first, param, found, rfl⟩ := mem_spread member
    exact ⟨slot_reads first (reads param found), by simp [slot, unnamed param found]⟩

theorem slots_spelled (blank : Blank spacing.unnamed) {params : List Param}
    (spelled : ∀ param ∈ params, ParamSpelled param) :
    ∀ other ∈ spread (slot spacing) params, other.Spelled := by
  intro other member
  obtain ⟨first, param, found, rfl⟩ := mem_spread member
  exact slot_spelled blank first (spelled param found)

end Slots

structure Spacing.Listing (spacing : Spacing) : Prop where
  reads : ∀ slots, SlotsReadable slots → (spacing.result slots).Readable
  spelled : ∀ slots, (∀ slot ∈ slots, slot.Spelled) → (spacing.result slots).Spelled

theorem Spacing.emitted_listing : Spacing.emitted.Listing where
  reads _ readable := ⟨breaks_blank, readable⟩
  spelled _ each := ⟨blank_space, each⟩

theorem Spacing.canonical_listing : Spacing.canonical.Listing where
  reads slots readable := by
    show (canonicalResult slots).Readable
    unfold canonicalResult
    split
    · trivial
    · exact ⟨breaks_blank, readable.1.type⟩
    · exact ⟨breaks_blank, readable⟩
  spelled slots each := by
    show (canonicalResult slots).Spelled
    unfold canonicalResult
    split
    · trivial
    · exact ⟨blank_space, (each _ List.mem_cons_self).type⟩
    · exact ⟨blank_space, each⟩

/-! Files. -/

structure MethodReads (spacing : Spacing) (method : Method) : Prop where
  name : method.name ∉ typeWords
  args : ∀ param ∈ Forwarding.arguments method, param.name ∉ typeWords
  signature : (methodSignature spacing method).Readable

structure MethodSpelled (spacing : Spacing) (method : Method) : Prop where
  name : IsName method.name
  field : IsName (Naming.fieldName method.name)
  args : ∀ param ∈ Forwarding.arguments method, IsName param.name
  signature : (methodSignature spacing method).Spelled

structure InterfaceWritable (spacing : Spacing) (interface : Interface) : Prop where
  struct : IsName (Naming.structName interface.name)
  receiver : IsName (Naming.receiverName interface.name)
  reads : ∀ method ∈ interface.methods, MethodReads spacing method
  spelled : ∀ method ∈ interface.methods, MethodSpelled spacing method

structure EntryWritable (entry : String × String) : Prop where
  label : entry.2 = "" ∨ entry.2 = "." ∨ IsName entry.2
  path : Quotable entry.1

theorem mockMethod_readable {spacing : Spacing} (interface : String) (first : Bool) {method : Method}
    (reads : MethodReads spacing method) :
    (mockMethod spacing interface first method).Readable where
  receiver := receiver_readable ..
  owner := structName_plain interface
  name := reads.name
  signature := reads.signature
  args := by
    intro text member
    obtain ⟨param, found, rfl⟩ := List.mem_map.1 member
    exact reads.args param found

section Mocks

variable {spacing : Spacing} (fits : spacing.Fits) {interfaces : List Interface}

include fits

theorem struct_target {methods : List Method}
    (reads : ∀ method ∈ methods, MethodReads spacing method) (tail : List Token) :
    Target (struct spacing methods) tail := by
  have readable : StructReadable (methods.map (field spacing (fieldWidth methods)))
      (spacing.braceEnd methods.isEmpty) := by
    constructor
    · intro other member
      obtain ⟨method, found, rfl⟩ := List.mem_map.1 member
      exact ⟨fits.field.line, (fits.fieldType _ _).2, (reads method found).signature⟩
    · intro some
      have present : methods.isEmpty = false := by simpa using some
      rw [present]
      exact fits.fieldsEnd.line
  exact ⟨rfl, ⟨_, _, rfl⟩, fun ends held => reading_structType readable _⟩

theorem imports_readable (entries : List (String × String)) :
    ImportsReadable (entries.map (importLine spacing)) (spacing.importEnd entries.isEmpty) where
  each := by
    intro line member
    obtain ⟨entry, -, rfl⟩ := List.mem_map.1 member
    exact (fits.importLine entry.2).line
  closed := by
    intro some
    have present : entries.isEmpty = false := by simpa using some
    rw [present]
    exact fits.importsEnd.line

theorem struct_lexes {methods : List Method}
    (spelled : ∀ method ∈ methods, MethodSpelled spacing method) {rest : List Token}
    {next : List Char} (later : Lexes rest next) :
    Lexes ((struct spacing methods).tokens ++ rest) next := by
  refine structType_lexes (fits.brace _) (fits.braceEnd _) ?_ later
  intro other member
  obtain ⟨method, found, rfl⟩ := List.mem_map.1 member
  exact ⟨fits.field.apart, (spelled method found).field, (fits.fieldType _ _).1,
    (spelled method found).signature⟩

theorem mockMethod_spelled {interface : String} (struct : IsName (Naming.structName interface))
    (receiver : IsName (Naming.receiverName interface)) (first : Bool) {method : Method}
    (spelled : MethodSpelled spacing method) :
    (mockMethod spacing interface first method).Spelled where
  space := (fits.func first).blank
  receiver := receiver_isName receiver ..
  owner := struct
  name := spelled.name
  signature := spelled.signature
  field := spelled.field
  bodySpace := fits.body
  args := by
    intro text member
    obtain ⟨param, found, rfl⟩ := List.mem_map.1 member
    exact spelled.args param found

theorem mock_topLine (first : Bool) {interface : Interface}
    (writable : InterfaceWritable spacing interface) :
    ∀ tree ∈ mock spacing first interface, TopLine tree := by
  intro tree member
  rcases List.mem_cons.1 member with rfl | later
  · exact typeDeclaration_topLine (fits.typeKeyword first).apart (fits.typeKeyword first).line
      writable.struct (struct_target fits writable.reads)
      fun rest next => struct_lexes fits writable.spelled
  · obtain ⟨written, among, rfl⟩ := List.mem_map.1 later
    obtain ⟨start, method, found, rfl⟩ := mem_spread among
    exact mockMethod_topLine (fits.func start).apart (fits.func start).line
      (mockMethod_readable interface.name start (writable.reads method found))
      (mockMethod_spelled fits writable.struct writable.receiver start
        (writable.spelled method found))

theorem importTree_topLine {entries : List (String × String)}
    (writable : ∀ entry ∈ entries, EntryWritable entry) : TopLine (importTree spacing entries) := by
  refine imports_topLine fits.importKeyword.apart fits.importKeyword.line (fits.importEnd _)
    (imports_readable fits entries) fun line member => ?_
  obtain ⟨entry, found, rfl⟩ := List.mem_map.1 member
  exact ⟨(fits.importLine entry.2).apart, (writable entry found).label, (writable entry found).path⟩

/-- The declarations of a mocks file can be written and read back. -/
theorem restTrees_topLine {entries? : Option (List (String × String))}
    (imports : ∀ entries ∈ entries?, ∀ entry ∈ entries, EntryWritable entry)
    (writable : ∀ interface ∈ interfaces, InterfaceWritable spacing interface) :
    ∀ tree ∈ restTrees spacing entries? interfaces, TopLine tree := by
  intro tree member
  rcases mem_restTrees spacing member with ⟨entries, found, rfl⟩ | ⟨first, interface, found, among⟩
  · exact importTree_topLine fits (imports entries found)
  · exact mock_topLine fits first (writable interface found) tree among

end Mocks

end InterfaceMocks.Mock
