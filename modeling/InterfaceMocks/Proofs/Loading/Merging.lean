import InterfaceMocks.Loading
import Mathlib.Data.List.Basic

/-!
How imports are merged, seen through looking a path up. Each insertion decides about one path, so of
all imports of a path the last one stays, first within a file and then among the files that are put
together.
-/

namespace InterfaceMocks

theorem lookup_cons_ite {κ α : Type} [BEq κ] [LawfulBEq κ] [DecidableEq κ] (wanted : κ) (entry : κ × α)
    (rest : List (κ × α)) :
    (entry :: rest).lookup wanted =
      if wanted = entry.1 then some entry.2 else rest.lookup wanted := by
  rw [List.lookup_cons]
  by_cases same : wanted = entry.1
  · simp [same]
  · rw [if_neg same, beq_eq_false_iff_ne.2 same]

namespace Imports

theorem lookup_place (path label wanted : String) (entries : List (String × String)) :
    (place path label entries).lookup wanted =
      if wanted = path then some label else entries.lookup wanted := by
  induction entries with
  | nil => rw [place, lookup_cons_ite]
  | cons entry rest ih =>
      simp only [place]
      split
      · rw [lookup_cons_ite]
      · split
        · rename_i equal
          by_cases same : wanted = path
          · simp only [lookup_cons_ite, same, if_true]
          · simp only [lookup_cons_ite, same, ← equal, if_false]
        · rename_i different
          rw [lookup_cons_ite, ih, lookup_cons_ite]
          by_cases same : wanted = path
          · simp only [same, different, if_true, if_false]
          · simp only [same, if_false]

theorem lookup_insert (imports : Imports) (path label wanted : String) :
    (imports.insert path label).entries.lookup wanted =
      if wanted = path then some label else imports.entries.lookup wanted :=
  lookup_place path label wanted imports.entries

/-- The alias that the last of some imports of a path gives it. -/
def lastAlias (specs : List (String × String)) (path : String) : Option String :=
  specs.reverse.lookup path

theorem lastAlias_cons (spec : String × String) (specs : List (String × String)) (path : String) :
    lastAlias (spec :: specs) path =
      (lastAlias specs path).or (if path = spec.1 then some spec.2 else none) := by
  rw [lastAlias, lastAlias, List.reverse_cons, List.lookup_append, lookup_cons_ite, List.lookup_nil]

theorem lastAlias_append (specs more : List (String × String)) (path : String) :
    lastAlias (specs ++ more) path = (lastAlias more path).or (lastAlias specs path) := by
  rw [lastAlias, List.reverse_append, List.lookup_append]
  rfl

theorem lastAlias_flatMap {α : Type} (specsOf : α → List (String × String)) (list : List α)
    (path : String) :
    lastAlias (list.flatMap specsOf) path =
      list.reverse.findSome? fun item => lastAlias (specsOf item) path := by
  induction list with
  | nil => rfl
  | cons item list ih =>
      rw [List.flatMap_cons, lastAlias_append, ih, List.reverse_cons, List.findSome?_append]
      simp

theorem lookup_extend (imports : Imports) (more : List (String × String)) (path : String) :
    (imports.extend more).entries.lookup path =
      (lastAlias more path).or (imports.entries.lookup path) := by
  induction more generalizing imports with
  | nil => rfl
  | cons spec more ih =>
      have rest := ih (imports.insert spec.1 spec.2)
      rw [lookup_insert] at rest
      rw [lastAlias_cons, extend, List.foldl_cons]
      refine rest.trans ?_
      by_cases same : path = spec.1 <;> cases lastAlias more path <;> simp [same]

/-- Where each path stands once, the first import of a path is also the last. -/
theorem lastAlias_entries (imports : Imports) (path : String) :
    lastAlias imports.entries path = imports.entries.lookup path := by
  obtain ⟨entries, sorted⟩ := imports
  induction entries with
  | nil => rfl
  | cons entry rest ih =>
      obtain ⟨before, ordered⟩ := List.pairwise_cons.1 sorted
      rw [lastAlias_cons, ih ordered, lookup_cons_ite]
      by_cases same : path = entry.1
      · have absent : rest.lookup path = none := by
          rw [List.lookup_eq_none_iff]
          intro other member
          have less := before other member
          rw [← same] at less
          simpa using (String.ne_of_lt less)
        rw [absent, Option.none_or]
      · simp only [same, if_false, Option.or_none]

theorem mem_iff_lookup (imports : Imports) (path label : String) :
    (path, label) ∈ imports.entries ↔ imports.entries.lookup path = some label := by
  obtain ⟨entries, sorted⟩ := imports
  induction entries with
  | nil => simp
  | cons entry rest ih =>
      obtain ⟨before, ordered⟩ := List.pairwise_cons.1 sorted
      rw [lookup_cons_ite, List.mem_cons]
      by_cases same : path = entry.1
      · rw [if_pos same]
        constructor
        · rintro (rfl | later)
          · rfl
          · exact absurd same (Ne.symm (String.ne_of_lt (before _ later)))
        · intro found
          exact .inl (Prod.ext same (Option.some.inj found).symm)
      · rw [if_neg same, ← ih ordered]
        constructor
        · rintro (rfl | later)
          · exact absurd rfl same
          · exact later
        · exact .inr

/-- Imports are known by what they give each path. -/
theorem ext_lookup {first second : Imports}
    (same : ∀ path, first.entries.lookup path = second.entries.lookup path) : first = second := by
  have nodup (imports : Imports) : imports.entries.Nodup :=
    imports.sorted.imp fun less equal => String.ne_of_lt less (congrArg Prod.fst equal)
  have perm : first.entries.Perm second.entries := by
    rw [List.perm_ext_iff_of_nodup (nodup first) (nodup second)]
    intro entry
    rw [mem_iff_lookup first entry.1 entry.2, mem_iff_lookup second entry.1 entry.2, same]
  have entries : first.entries = second.entries := by
    apply perm.eq_of_pairwise _ first.sorted second.sorted
    intro entry other _ _ before after
    exact absurd (String.lt_trans before after) (String.lt_irrefl _)
  obtain ⟨entries', sorted⟩ := first
  obtain ⟨other, sorted'⟩ := second
  subst entries
  rfl

/-- Inserting the entries of some imports one by one gives these imports. -/
theorem extend_entries (imports : Imports) : Imports.empty.extend imports.entries = imports := by
  apply ext_lookup
  intro path
  rw [lookup_extend, lastAlias_entries]
  exact Option.or_none

end Imports

namespace Extraction

open InterfaceMocks.Grammar (Source)

def importsIn (source : Source) : List (String × String) := source.declarations.flatMap importsOf

def interfacesIn (source : Source) : List Interface := source.declarations.flatMap interfacesOf

theorem lookup_contents (source : Source) (path : String) :
    (contents source).imports.entries.lookup path =
      if interfacesIn source = [] then none else Imports.lastAlias (importsIn source) path := by
  by_cases none : interfacesIn source = []
  · have empty : (contents source).imports = .empty := if_pos (List.isEmpty_iff.2 none)
    rw [empty, if_pos none]
    rfl
  · have extended : (contents source).imports = Imports.empty.extend (importsIn source) :=
      if_neg (fun isEmpty => none (List.isEmpty_iff.1 isEmpty))
    rw [extended, if_neg none, Imports.lookup_extend]
    exact Option.or_none

end Extraction

namespace Loading

open InterfaceMocks.Extraction (FileContents)

/-- Of the files that are put together, the last that imports a path gives it its alias. -/
theorem lookup_merged (files : List FileContents) (imports : Imports) (path : String) :
    (files.foldl (fun imports file => imports.extend file.imports.entries) imports).entries.lookup
        path =
      (files.reverse.findSome? fun file => file.imports.entries.lookup path).or
        (imports.entries.lookup path) := by
  induction files generalizing imports with
  | nil => rfl
  | cons file files ih =>
      rw [List.foldl_cons, ih, Imports.lookup_extend, Imports.lastAlias_entries, List.reverse_cons,
        List.findSome?_append, Option.or_assoc]
      simp

end Loading

end InterfaceMocks
