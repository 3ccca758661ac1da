import InterfaceMocks.Proofs.Mock.Names
import Mathlib.Data.List.Nodup

/-!
When the declarations of a mocks file clash. Structs and fields are named by title case, which does
not tell a name from its twin, and a field may get the name of a method that looks like one. Nothing
else makes two declarations clash, and names that are in title case already never do.
-/

namespace InterfaceMocks

/-- The names of the structs that mock the interfaces of a package. -/
def Package.structNames (package : Package) : List String :=
  package.interfaces.map fun interface => Naming.structName interface.name

/-- The names of the fields of the struct that mocks an interface. -/
def Interface.fieldNames (interface : Interface) : List String :=
  interface.methods.map fun method => Naming.fieldName method.name

namespace Naming

/-- Different names that are the same in title case. -/
def Twins (first second : String) : Prop := first ≠ second ∧ title first = title second

/-- Names that differ in nothing but that the first letter, an ASCII one, is small in `small` and
capital in `capital`. -/
def Capitalised (small capital : String) : Prop :=
  ∃ c rest, c.isLower = true ∧ small.toList = c :: rest ∧ capital.toList = c.toUpper :: rest

end Naming

namespace Mock

open InterfaceMocks.Naming
open InterfaceMocks.Text

theorem structName_inj {first second : String} :
    structName first = structName second ↔ title first = title second := by
  simp [structName]

theorem fieldName_inj {first second : String} :
    fieldName first = fieldName second ↔ title first = title second := by
  simp [fieldName]

/-- Where names differ, what is made from their title case differs as long as there are no twins. -/
theorem nodup_titled {α : Type} {name : α → String} {made : String → String}
    (injective : ∀ {first second}, made first = made second ↔ title first = title second)
    {items : List α} (distinct : (items.map name).Nodup) :
    (items.map fun item => made (name item)).Nodup ↔
      ∀ first ∈ items, ∀ second ∈ items, ¬ Twins (name first) (name second) := by
  constructor
  · rintro apart first inFirst second inSecond ⟨differ, same⟩
    have equal := List.inj_on_of_nodup_map apart inFirst inSecond (injective.2 same)
    exact differ (congrArg name equal)
  · intro single
    rw [List.Nodup, List.pairwise_map] at *
    refine distinct.imp_of_mem fun inFirst inSecond differ same => ?_
    exact single _ inFirst _ inSecond ⟨differ, injective.1 same⟩

/-! Twins. -/

theorem title_of_ascii {name : String} {c : Char} {rest : List Char}
    (chars : name.toList = c :: rest) (ascii : c.val < 128) :
    (title name).toList = c.toUpper :: rest := by
  simp [title, chars, LetterCase.upper, ascii]

/-- Only small letters have a capital, and it tells which one it is the capital of. -/
theorem ascii_upper {c : Char} (ascii : c.val < 128) :
    (c.isLower = true ∧ c.toUpper.toLower = c ∧ c.toUpper.isLower = false)
      ∨ (c.isLower = false ∧ c.toUpper = c) := by
  have all : ∀ n : Fin 128,
      ((Char.ofNat n).isLower = true ∧ (Char.ofNat n).toUpper.toLower = Char.ofNat n
          ∧ (Char.ofNat n).toUpper.isLower = false)
        ∨ ((Char.ofNat n).isLower = false ∧ (Char.ofNat n).toUpper = Char.ofNat n) := by
    decide
  exact of_ascii (P := fun c => (c.isLower = true ∧ c.toUpper.toLower = c
    ∧ c.toUpper.isLower = false) ∨ (c.isLower = false ∧ c.toUpper = c)) all ascii

/-- Characters with one capital are the same, or the small and the capital letter of a pair. -/
theorem upper_eq_upper {c d : Char} (first : c.val < 128) (second : d.val < 128) :
    c ≠ d ∧ c.toUpper = d.toUpper ↔
      (c.isLower = true ∧ d = c.toUpper) ∨ (d.isLower = true ∧ c = d.toUpper) := by
  -- each of the two is a small letter, or is its own capital
  rcases ascii_upper first with ⟨small, back, capital⟩ | ⟨large, own⟩ <;>
    rcases ascii_upper second with ⟨small', back', capital'⟩ | ⟨large', own'⟩
  · grind
  · grind
  · grind
  · grind

theorem startsPlain_first {name : String} (plain : StartsPlain name) {c : Char} {rest : List Char}
    (chars : name.toList = c :: rest) : c.val < 128 :=
  ascii_of_letter (plain c (by simp [chars]))

/-- Names that start with an underscore or an ASCII letter are twins exactly if they differ in the
case of that letter and in nothing else. -/
theorem twins_iff {first second : String} (plain : StartsPlain first) (plain' : StartsPlain second) :
    Twins first second ↔ Capitalised first second ∨ Capitalised second first := by
  have none {name : String} (chars : name.toList = []) : (title name).toList = [] := by
    simp [title, chars]
  simp only [Twins, Capitalised, ← String.toList_inj, ne_eq]
  cases chars : first.toList with
  | nil =>
      cases chars' : second.toList with
      | nil => simp
      | cons d rest' => simp [none chars, title_of_ascii chars' (startsPlain_first plain' chars')]
  | cons c rest =>
      have ascii := startsPlain_first plain chars
      cases chars' : second.toList with
      | nil => simp [none chars', title_of_ascii chars ascii]
      | cons d rest' =>
          have ascii' := startsPlain_first plain' chars'
          have pair := upper_eq_upper ascii ascii'
          rw [title_of_ascii chars ascii, title_of_ascii chars' ascii']
          simp only [List.cons.injEq]
          constructor
          · rintro ⟨differ, capital, rfl⟩
            rcases pair.1 ⟨fun same => differ ⟨same, rfl⟩, capital⟩ with ⟨small, rfl⟩ | ⟨small, rfl⟩
            · exact .inl ⟨c, rest, small, ⟨rfl, rfl⟩, rfl, rfl⟩
            · exact .inr ⟨d, rest, small, ⟨rfl, rfl⟩, rfl, rfl⟩
          · rintro (⟨_, _, small, ⟨rfl, rfl⟩, rfl, rfl⟩ | ⟨_, _, small, ⟨rfl, rfl⟩, rfl, rfl⟩)
            · obtain ⟨differ, capital⟩ := pair.2 (.inl ⟨small, rfl⟩)
              exact ⟨fun same => differ same.1, capital, rfl⟩
            · obtain ⟨differ, capital⟩ := pair.2 (.inr ⟨small, rfl⟩)
              exact ⟨fun same => differ same.1, capital, rfl⟩

/-- A name in title case never looks like a field. -/
theorem titled_ne_fieldName {name method : String} (titled : title name = name) :
    fieldName method ≠ name := by
  rintro rfl
  have chars : (fieldName method).toList = 'm' :: (title method).toList := by simp [fieldName]
  -- it would start with a capital M
  have capital := title_of_ascii chars (by decide)
  rw [titled, chars] at capital
  exact absurd (List.cons.inj capital).1 (by decide)

theorem titled_not_twins {first second : String} (titled : title first = first)
    (titled' : title second = second) : ¬ Twins first second := by
  rintro ⟨differ, same⟩
  exact differ (titled ▸ titled' ▸ same)

theorem fields_avoid_methods_iff (interface : Interface) :
    (∀ field ∈ interface.fieldNames, field ∉ interface.methods.map Method.name) ↔
      ∀ first ∈ interface.methods, ∀ second ∈ interface.methods,
        second.name ≠ fieldName first.name := by
  constructor
  · intro apart first inFirst second inSecond same
    exact apart _ (List.mem_map_of_mem inFirst) (same ▸ List.mem_map_of_mem inSecond)
  · rintro apart _ isField isMethod
    obtain ⟨first, inFirst, rfl⟩ := List.mem_map.1 isField
    obtain ⟨second, inSecond, same⟩ := List.mem_map.1 isMethod
    exact apart first inFirst second inSecond same

/-- Where the interfaces of a package and the methods of each interface have different names, two
structs clash exactly for twins, and so do two fields of a struct; a field clashes with a method
exactly if the method is called `m` and then the title case of one of the methods. Among names that
start with an underscore or an ASCII letter, twins differ in the case of that letter only. So nothing
clashes where all names are in title case. -/
theorem declarations_clash_iff (package : Package)
    (interfaces : (package.interfaces.map Interface.name).Nodup)
    (methods : ∀ interface ∈ package.interfaces, (interface.methods.map Method.name).Nodup) :
    (package.structNames.Nodup ↔ ∀ first ∈ package.interfaces, ∀ second ∈ package.interfaces,
        ¬ Twins first.name second.name)
      ∧ (∀ interface ∈ package.interfaces,
        (interface.fieldNames.Nodup ↔ ∀ first ∈ interface.methods, ∀ second ∈ interface.methods,
            ¬ Twins first.name second.name)
          ∧ ((∀ field ∈ interface.fieldNames, field ∉ interface.methods.map Method.name) ↔
            ∀ first ∈ interface.methods, ∀ second ∈ interface.methods,
              second.name ≠ "m" ++ title first.name))
      ∧ (∀ first second, StartsPlain first → StartsPlain second →
        (Twins first second ↔ Capitalised first second ∨ Capitalised second first))
      ∧ ((∀ interface ∈ package.interfaces, title interface.name = interface.name) →
        package.structNames.Nodup)
      ∧ ∀ interface ∈ package.interfaces,
        (∀ method ∈ interface.methods, title method.name = method.name) →
          interface.fieldNames.Nodup
            ∧ ∀ field ∈ interface.fieldNames, field ∉ interface.methods.map Method.name := by
  have structs := nodup_titled structName_inj interfaces
  have fields (interface : Interface) (listed : interface ∈ package.interfaces) :=
    nodup_titled fieldName_inj (methods interface listed)
  refine ⟨structs, fun interface listed =>
    ⟨fields interface listed, fields_avoid_methods_iff interface⟩, fun first second => twins_iff,
    fun titled => structs.2 ?_, fun interface listed titled =>
      ⟨(fields interface listed).2 ?_, (fields_avoid_methods_iff interface).2 ?_⟩⟩
  · exact fun first inFirst second inSecond =>
      titled_not_twins (titled first inFirst) (titled second inSecond)
  · exact fun first inFirst second inSecond =>
      titled_not_twins (titled first inFirst) (titled second inSecond)
  · exact fun first _ second inSecond same =>
      titled_ne_fieldName (titled second inSecond) same.symm

/-- A package in which all names are in title case. -/
def titledPackage : Package where
  name := "p"
  imports := .empty
  interfaces := [⟨"Reader", [⟨"Read", [], []⟩, ⟨"MRead", [], []⟩]⟩, ⟨"Écrivain", []⟩]

/-- Its declarations do not clash. -/
theorem declarations_clash_iff_titledPackage :
    (titledPackage.interfaces.map Interface.name).Nodup
      ∧ (∀ interface ∈ titledPackage.interfaces, (interface.methods.map Method.name).Nodup)
      ∧ titledPackage.structNames.Nodup
      ∧ ∀ interface ∈ titledPackage.interfaces, interface.fieldNames.Nodup
        ∧ ∀ field ∈ interface.fieldNames, field ∉ interface.methods.map Method.name := by
  have interfaces : (titledPackage.interfaces.map Interface.name).Nodup := by decide
  have methods : ∀ interface ∈ titledPackage.interfaces,
      (interface.methods.map Method.name).Nodup := by decide
  obtain ⟨-, -, -, structs, fields⟩ := declarations_clash_iff titledPackage interfaces methods
  refine ⟨interfaces, methods, structs (by decide), fun interface listed => ?_⟩
  have titled : ∀ interface ∈ titledPackage.interfaces, ∀ method ∈ interface.methods,
      title method.name = method.name := by decide
  exact fields interface listed (titled interface listed)

/-- Two interfaces that are twins, and an interface with twins and a method called like a field. -/
def clashingPackage : Package where
  name := "p"
  imports := .empty
  interfaces := [⟨"reader", []⟩, ⟨"Reader", [⟨"foo", [], []⟩, ⟨"Foo", [], []⟩, ⟨"mFoo", [], []⟩]⟩]

/-- Different names do not keep the declarations apart. -/
theorem clashingPackage_clashes :
    (clashingPackage.interfaces.map Interface.name).Nodup
      ∧ (∀ interface ∈ clashingPackage.interfaces, (interface.methods.map Method.name).Nodup)
      ∧ ¬ clashingPackage.structNames.Nodup
      ∧ ∃ interface ∈ clashingPackage.interfaces, ¬ interface.fieldNames.Nodup
        ∧ ∃ field ∈ interface.fieldNames, field ∈ interface.methods.map Method.name := by
  decide

end Mock

end InterfaceMocks
