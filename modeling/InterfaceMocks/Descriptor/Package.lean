import InterfaceMocks.Descriptor.TypeExpr

/-!
What is known of a package: its name, what it imports, and its interfaces in the order in which they
were found. Imports are kept sorted by path, one entry for each path.
-/

namespace InterfaceMocks

/-- A parameter or result. The name is empty where the source gives none. -/
structure Param where
  name : String
  type : TypeExpr
  deriving DecidableEq, Repr

structure Method where
  name : String
  args : List Param
  returns : List Param
  deriving DecidableEq, Repr

structure Interface where
  name : String
  methods : List Method
  deriving DecidableEq, Repr

/-- Paths with their aliases; an empty alias means that the package is known by its own name. -/
structure Imports where
  entries : List (String × String)
  sorted : entries.Pairwise fun first second => first.1 < second.1
  deriving DecidableEq, Repr

structure Package where
  name : String
  imports : Imports
  interfaces : List Interface
  deriving DecidableEq, Repr

namespace Imports

def empty : Imports := ⟨[], .nil⟩

def place (path label : String) : List (String × String) → List (String × String)
  | [] => [(path, label)]
  | entry :: rest =>
      if path < entry.1 then (path, label) :: entry :: rest
      else if path = entry.1 then (path, label) :: rest
      else entry :: place path label rest

theorem mem_place {path label : String} {entries : List (String × String)}
    {entry : String × String} (found : entry ∈ place path label entries) :
    entry = (path, label) ∨ entry ∈ entries := by
  induction entries with
  | nil => simpa [place] using found
  | cons first rest ih =>
      simp only [place] at found
      split at found
      · simpa using found
      · split at found
        · rcases List.mem_cons.1 found with same | later
          · exact .inl same
          · exact .inr (List.mem_cons_of_mem _ later)
        · rcases List.mem_cons.1 found with same | later
          · exact .inr (same ▸ List.mem_cons_self)
          · exact (ih later).imp id (List.mem_cons_of_mem _)

theorem place_sorted {path label : String} {entries : List (String × String)}
    (sorted : entries.Pairwise fun first second => first.1 < second.1) :
    (place path label entries).Pairwise fun first second => first.1 < second.1 := by
  induction entries with
  | nil => simp [place]
  | cons first rest ih =>
      obtain ⟨before, ordered⟩ := List.pairwise_cons.1 sorted
      simp only [place]
      split
      · rename_i less
        refine List.pairwise_cons.2 ⟨fun entry found => ?_, sorted⟩
        rcases List.mem_cons.1 found with same | later
        · exact same ▸ less
        · exact String.lt_trans less (before entry later)
      · rename_i notLess
        split
        · rename_i same
          exact List.pairwise_cons.2 ⟨fun entry found => same ▸ before entry found, ordered⟩
        · rename_i different
          refine List.pairwise_cons.2 ⟨fun entry found => ?_, ih ordered⟩
          rcases mem_place found with same | later
          · exact same ▸ Std.lt_of_le_of_ne (String.not_lt.1 notLess) (Ne.symm different)
          · exact before entry later

def insert (path label : String) (imports : Imports) : Imports :=
  ⟨place path label imports.entries, place_sorted imports.sorted⟩

/-- Sets the alias of each path of `more` in turn; the last alias given for a path stays. -/
def extend (imports : Imports) (more : List (String × String)) : Imports :=
  more.foldl (fun result entry => result.insert entry.1 entry.2) imports

end Imports

namespace Method

def hasUnrecognised (method : Method) : Bool :=
  (method.args ++ method.returns).any fun param => param.type.isUnrecognised

end Method

namespace Package

def methodCount (package : Package) : Nat :=
  (package.interfaces.flatMap Interface.methods).length

def unrecognised (package : Package) : List (String × String) :=
  package.interfaces.flatMap fun interface =>
    (interface.methods.filter Method.hasUnrecognised).map fun method =>
      (interface.name, method.name)

end Package

end InterfaceMocks
