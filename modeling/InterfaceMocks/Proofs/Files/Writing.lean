import InterfaceMocks.Proofs.Run.Effects

/-!
What a new file changes. Where nothing was, a file that is written adds one entry to its directory.
Every path that led to something leads there still, and so does the path of the file: writing the same
again changes nothing.
-/

namespace InterfaceMocks.Store

/-- The entries of a file system have a location each. -/
def Distinct (store : Store) : Prop := (store.entries.map Prod.fst).Nodup

section New

variable {store : Store} {location : Location} {mode : Nat} {contents : ByteArray}

theorem put_new (node : Node) {entries : List (Location × Node)}
    (absent : ∀ entry ∈ entries, entry.1 ≠ location) :
    put location node entries = entries ++ [(location, node)] := by
  induction entries with
  | nil => rfl
  | cons entry rest ih =>
      rw [put, if_neg (absent entry List.mem_cons_self),
        ih fun other member => absent other (List.mem_cons_of_mem _ member), List.cons_append]

theorem put_same (node : Node) (entries : List (Location × Node)) :
    put location node (put location node entries) = put location node entries := by
  induction entries with
  | nil => simp [put]
  | cons entry rest ih =>
      by_cases here : entry.1 = location
      · simp [put, here]
      · simp [put, here, ih]

theorem absent_entries (absent : store.node? location = none) :
    location ≠ [] ∧ ∀ entry ∈ store.entries, entry.1 ≠ location := by
  by_cases root : location = []
  · simp [node?, root] at absent
  · rw [node?, if_neg root, List.lookup_eq_none_iff] at absent
    exact ⟨root, fun entry member same => absurd (absent entry member) (by simp [same])⟩

theorem entries_set_new (absent : store.node? location = none) (node : Node) :
    (store.set location node).entries = store.entries ++ [(location, node)] :=
  put_new node (absent_entries absent).2

theorem distinct_set_new (distinct : store.Distinct) (absent : store.node? location = none)
    (node : Node) : (store.set location node).Distinct := by
  rw [Distinct, entries_set_new absent, List.map_append, List.nodup_append]
  refine ⟨distinct, by simp, ?_⟩
  intro other member last found
  obtain rfl : last = location := by simpa using found
  obtain ⟨entry, among, rfl⟩ := List.mem_map.1 member
  exact (absent_entries absent).2 entry among

/-- A path leads where it led before a file was written, unless a slash after it asks for a
directory there. -/
theorem walk_set_new (absent : store.node? location = none) {links : Nat} {base : Location}
    {names : List String} {target : Target} (found : store.walk links base names = .ok target)
    (suited : target.location = location → target.asDirectory = false) :
    (store.set location (.file mode contents)).walk links base names = .ok target := by
  have below := (absent_entries absent).1
  have kept {other : Location} {node : Node} (there : store.node? other = some node) :
      (store.set location (.file mode contents)).node? other = some node := by
    rw [node_set store below, if_neg (by rintro rfl; simp [absent] at there), there]
  fun_induction store.walk links base names with
  | case1 links base => simpa only [walk] using found
  | case2 links base name rest here ih =>
      rw [walk, if_pos here]
      exact ih found
  | case3 links base rest here ih =>
      rw [walk, if_neg here, if_pos rfl]
      exact ih found
  | case4 => cases found
  | case5 links base name rest here up short there ih =>
      rw [walk, if_neg here, if_neg up, if_neg short, kept there]
      exact ih found
  | case6 links base name rest here up short mode' contents' there last =>
      rw [walk, if_neg here, if_neg up, if_neg short, kept there]
      simpa only [last, if_true] using found
  | case7 => cases found
  | case8 => cases found
  | case9 base name rest here up short link there links ih =>
      rw [walk, if_neg here, if_neg up, if_neg short, kept there]
      exact ih found
  | case10 links base name rest here up short missing last =>
      rw [walk, if_neg here, if_neg up, if_neg short, node_set store below, missing]
      by_cases same : base ++ [name] = location
      · simpa only [if_pos same, last, if_true] using found
      · simpa only [if_neg same, last, if_true] using found
  | case11 links base name rest here up short missing more slashes =>
      obtain rfl := Except.ok.inj found
      have other : base ++ [name] ≠ location := fun same => by simpa using suited same
      rw [walk, if_neg here, if_neg up, if_neg short, node_set store below, if_neg other, missing]
      simp only [more, slashes, if_true]
      rfl
  | case12 => cases found

theorem resolve_set_new (absent : store.node? location = none) {path : String} {target : Target}
    (found : store.resolve path = .ok target)
    (suited : target.location = location → target.asDirectory = false) :
    (store.set location (.file mode contents)).resolve path = .ok target := by
  rw [resolve] at found ⊢
  split
  · rename_i nowhere
    rw [if_pos nowhere] at found
    cases found
  · rename_i somewhere
    rw [if_neg somewhere] at found
    exact walk_set_new absent found suited

/-! The directory of the file. -/

theorem childrenOf_set_new (absent : store.node? location = none) (directory : Location)
    (node : Node) :
    (store.set location node).childrenOf directory = store.childrenOf directory
      ∨ ∃ name, location = directory ++ [name]
        ∧ (store.set location node).childrenOf directory =
            store.childrenOf directory ++ [(name, node)] := by
  obtain ⟨below, -⟩ := absent_entries absent
  have last : location.getLast? = some (location.getLast below) := List.getLast?_eq_some_getLast below
  have split := List.dropLast_append_getLast below
  rw [childrenOf, entries_set_new absent, List.filterMap_append]
  by_cases inside : location.dropLast = directory
  · refine .inr ⟨location.getLast below, by rw [← inside, split], ?_⟩
    simp [childrenOf, last, inside]
  · refine .inl ?_
    simp [childrenOf, last, inside]

theorem childrenOf_distinct (distinct : store.Distinct) (directory : Location) :
    ((store.childrenOf directory).map Prod.fst).Nodup := by
  let name? (location : Location) : Option String :=
    if location.dropLast = directory then location.getLast? else none
  have names : (store.childrenOf directory).map Prod.fst =
      (store.entries.map Prod.fst).filterMap name? := by
    rw [childrenOf, List.map_filterMap, List.filterMap_map]
    refine List.filterMap_congr fun entry _ => ?_
    cases last : entry.1.getLast? <;> by_cases inside : entry.1.dropLast = directory <;>
      simp [name?, last, inside]
  rw [names]
  refine List.Pairwise.filterMap name? (fun first second different => ?_) distinct
  rintro name here _ there rfl
  simp only [name?, Option.ite_none_right_eq_some] at here there
  apply different
  rw [← List.dropLast_append_getLast? name here.2, ← List.dropLast_append_getLast? name there.2,
    here.1, there.1]

theorem list_eq_ok {path : String} {entries : List (String × Node)} :
    store.list path = .ok entries ↔
      ∃ target, store.resolve path = .ok target ∧ store.node? target.location = some .directory
        ∧ entries = store.childrenOf target.location := by
  rw [list, find]
  cases resolved : store.resolve path with
  | error error => simp
  | ok target =>
      cases found : store.node? target.location with
      | none => simp [found]
      | some node => cases node <;> simp [found, eq_comm]

/-- A directory that could be listed has one entry more once a file is written into it. -/
theorem list_set_new (absent : store.node? location = none) {path : String}
    {entries : List (String × Node)} (listed : store.list path = .ok entries) :
    (store.set location (.file mode contents)).list path = .ok entries
      ∨ ∃ target name, store.resolve path = .ok target ∧ location = target.location ++ [name]
        ∧ (store.set location (.file mode contents)).list path =
            .ok (entries ++ [(name, .file mode contents)]) := by
  obtain ⟨target, resolved, directory, rfl⟩ := list_eq_ok.1 listed
  have other : target.location ≠ location := by
    rintro rfl
    simp [absent] at directory
  have again := @resolve_set_new _ _ mode contents absent _ _ resolved (absurd · other)
  have still : (store.set location (.file mode contents)).node? target.location =
      some .directory := by
    rw [node_set store (absent_entries absent).1, if_neg other, directory]
  rcases childrenOf_set_new absent target.location (.file mode contents) with
    same | ⟨name, inside, more⟩
  · exact .inl (list_eq_ok.2 ⟨target, again, still, same.symm⟩)
  · exact .inr ⟨target, name, resolved, inside, list_eq_ok.2 ⟨target, again, still, more.symm⟩⟩

theorem list_distinct (distinct : store.Distinct) {path : String} {entries : List (String × Node)}
    (listed : store.list path = .ok entries) : (entries.map Prod.fst).Nodup := by
  obtain ⟨target, -, -, rfl⟩ := list_eq_ok.1 listed
  exact childrenOf_distinct distinct target.location

end New

/-- Writing a new file again changes nothing. -/
theorem write_again {store after : Store} {path : String} {mode : Nat} {contents : ByteArray}
    (absent : ∀ found, store.find path ≠ .ok found)
    (written : store.write path mode contents = .ok after) :
    (∃ target, store.resolve path = .ok target ∧ store.node? target.location = none
        ∧ after = store.set target.location (.file mode contents))
      ∧ after.write path mode contents = .ok after := by
  unfold write at written
  split at written
  · cases written
  · rename_i target resolved
    have missing : store.node? target.location = none := by
      cases there : store.node? target.location with
      | none => rfl
      | some node => exact absurd (by simp [find, resolved, there]) (absent (target.location, node))
    rw [missing] at written
    by_cases slash : target.asDirectory = true
    · simp [slash] at written
    · have file : target.asDirectory = false := by simpa using slash
      obtain rfl : store.set target.location (.file mode contents) = after := by
        simpa [file] using written
      refine ⟨⟨target, resolved, missing, rfl⟩, ?_⟩
      have again := @resolve_set_new _ _ mode contents missing _ _ resolved fun _ => file
      have there : (store.set target.location (.file mode contents)).node? target.location =
          some (.file mode contents) := by
        rw [node_set store (absent_entries missing).1, if_pos rfl]
      rw [write, again]
      dsimp only
      rw [there]
      simp only [set, put_same]

end InterfaceMocks.Store
