import InterfaceMocks.Proofs.Mock.Names
import InterfaceMocks.Proofs.Text.Replacement
import Mathlib.Data.List.Nodup

/-!
The names inside a mocked method do not get in each other's way. New names are found by loops that
append a suffix as long as a name is taken. A loop ends because a name that was rejected is shorter
than all that follow it, so each of the taken names can stop it once at most.
-/

namespace InterfaceMocks

/-- The names of the parameters that have one and can be referred to by it. -/
def declaredNames (params : List Param) : List String :=
  (params.filter Forwarding.isForwardable).map Param.name

namespace Forwarding

/-- A loop that appends `suffix` as long as the name is taken: the name it starts with, the number of
rounds it makes, and the name it ends with. -/
inductive Renames (suffix : String) (taken : List String) : String → Nat → String → Prop
  | done {name : String} (free : name ∉ taken) : Renames suffix taken name 0 name
  | again {name result : String} {rounds : Nat} (used : name ∈ taken)
      (later : Renames suffix taken (name ++ suffix) rounds result) :
      Renames suffix taken name (rounds + 1) result

section Loops

variable {suffix name result : String} {taken : List String} {rounds : Nat}

theorem Renames.not_mem (run : Renames suffix taken name rounds result) : result ∉ taken := by
  induction run with
  | done free => exact free
  | again used later ih => exact ih

/-- A name that is shorter than the one a loop starts with is never looked at. -/
theorem Renames.of_erase {rejected : String}
    (run : Renames suffix (taken.erase rejected) name rounds result)
    (shorter : rejected.length < name.length) : Renames suffix taken name rounds result := by
  induction run with
  | @done name free =>
      have other : name ≠ rejected := by
        rintro rfl
        exact Nat.lt_irrefl _ shorter
      exact .done fun used => free ((List.mem_erase_of_ne other).2 used)
  | @again name result rounds used later ih =>
      refine .again (List.mem_of_mem_erase used) (ih ?_)
      rw [String.length_append]
      omega

/-- The loop comes to an end, with the name that `fresh` gives. -/
theorem fresh_renames (some : suffix ≠ "") (name : String) (taken : List String) :
    ∃ rounds ≤ taken.length, Renames suffix taken name rounds (fresh suffix name taken) := by
  have longer : 0 < suffix.length := by
    rw [Nat.pos_iff_ne_zero, ne_eq, String.length_eq_zero_iff]
    exact some
  fun_induction fresh suffix name taken with
  | case1 name taken used ih =>
      obtain ⟨rounds, bound, run⟩ := ih
      have one := List.length_pos_of_mem used
      rw [List.length_erase_of_mem used] at bound
      refine ⟨rounds + 1, by omega, .again used (run.of_erase ?_)⟩
      rw [String.length_append]
      omega
  | case2 name taken free => exact ⟨0, Nat.zero_le _, .done free⟩

theorem fresh_not_mem (some : suffix ≠ "") (name : String) (taken : List String) :
    fresh suffix name taken ∉ taken := by
  obtain ⟨rounds, -, run⟩ := fresh_renames some name taken
  exact run.not_mem

end Loops

end Forwarding

namespace Mock

open InterfaceMocks.Forwarding

/-! New names of arguments. -/

theorem toList_underscores (count : Nat) :
    (String.join (List.replicate count "_")).toList = List.replicate count '_' := by
  induction count with
  | zero => rfl
  | succ count ih => rw [List.replicate_succ, String.join_cons, String.toList_append, ih]; rfl

/-- A new name: the number of the argument, and underscores up to the end. -/
theorem renamed_spelled (taken : List String) (index : Nat) (param : Param) :
    ∃ more, (renamed taken index param).name.toList ++ ['_'] =
      "arg".toList ++ (Nat.toDigits 10 index ++ '_' :: more) := by
  obtain ⟨count, text⟩ := fresh_spec "_" ("arg" ++ toString index) taken
  refine ⟨List.replicate count '_', ?_⟩
  rw [renamed, text, ← List.replicate_succ, List.replicate_succ', String.toList_append,
    toList_underscores]
  simp

/-- The number of an argument can be told from its new name, however many underscores follow it. -/
theorem renamed_injective {taken : List String} {first second : Nat} {param other : Param}
    (same : (renamed taken first param).name = (renamed taken second other).name) :
    first = second := by
  obtain ⟨more, spelled⟩ := renamed_spelled taken first param
  obtain ⟨more', spelled'⟩ := renamed_spelled taken second other
  rw [same, spelled', List.append_cancel_left_eq] at spelled
  have isDigit {index : Nat} : ∀ c ∈ Nat.toDigits 10 index, c.isDigit = true :=
    fun c member => Nat.isDigit_of_mem_toDigits (by decide) (by decide) member
  have digits := Placeholder.digits_prefix _ _ isDigit isDigit spelled
  calc
    first = Nat.ofDigitChars 10 (Nat.toDigits 10 first) 0 := Nat.ofDigitChars_ten_toDigits.symm
    _ = Nat.ofDigitChars 10 (Nat.toDigits 10 second) 0 := by rw [digits]
    _ = second := Nat.ofDigitChars_ten_toDigits

theorem renamed_nodup (taken : List String) (params : List Param) :
    ((params.mapIdx (renamed taken)).map Param.name).Nodup := by
  rw [List.Nodup, List.pairwise_iff_getElem]
  intro first second bound bound' less same
  simp only [List.getElem_map, List.getElem_mapIdx] at same
  have := renamed_injective same
  omega

theorem mem_declaredNames {name : String} {params : List Param}
    (member : name ∈ declaredNames params) : name ∈ params.map Param.name := by
  obtain ⟨param, found, rfl⟩ := List.mem_map.1 member
  exact List.mem_map_of_mem (List.mem_of_mem_filter found)

theorem receiver_not_mem (interface : String) (args returns : List Param) :
    receiver interface args returns ∉ (args ++ returns).map Param.name :=
  fresh_not_mem (by decide) _ _

section Methods

variable (method : Method)

theorem arguments_forwardable : ∀ param ∈ arguments method, isForwardable param = true := by
  intro param member
  rcases arguments_spec member with ⟨-, forwardable, -⟩ | ⟨original, -, index, rfl⟩
  · exact forwardable
  · obtain ⟨more, start⟩ := renamed_start (method.returns.map Param.name) index original
    simp only [isForwardable, Bool.and_eq_true, bne_iff_ne]
    constructor <;> rintro same <;> simp [same] at start

variable {method}

/-- The names of the arguments differ from each other and from those of the results. -/
theorem arguments_nodup (distinct : (declaredNames (method.args ++ method.returns)).Nodup) :
    ((arguments method).map Param.name ++ declaredNames method.returns).Nodup := by
  rw [declaredNames, List.filter_append, List.map_append] at distinct
  rw [arguments]
  split
  · rename_i all
    rwa [List.filter_eq_self.2 (List.all_eq_true.1 all)] at distinct
  · refine List.Nodup.append (renamed_nodup _ _) (List.Nodup.of_append_right distinct) ?_
    intro name handed declared
    obtain ⟨param, member, rfl⟩ := List.mem_map.1 handed
    obtain ⟨index, bound, rfl⟩ := List.mem_mapIdx.1 member
    -- a new name is looked for among those that are no name of a result
    exact fresh_not_mem (by decide) _ _ (mem_declaredNames declared)

end Methods

/-- What holds of the names inside the mock of a method: the loops that look for new ones end, each
argument is handed on with its type and by a name that can be referred to, and the receiver, the
arguments and the results have different names. -/
structure Hygienic (interface : String) (method : Method) : Prop where
  argumentLoop : ∀ index param, ∃ rounds ≤ method.returns.length,
    Renames "_" (method.returns.map Param.name) ("arg" ++ toString index) rounds
      (renamed (method.returns.map Param.name) index param).name
  receiverLoop : ∃ rounds ≤ method.args.length + method.returns.length,
    Renames "_m" ((arguments method ++ method.returns).map Param.name)
      (Naming.receiverName interface) rounds (receiver interface (arguments method) method.returns)
  length : (arguments method).length = method.args.length
  types : (arguments method).map Param.type = method.args.map Param.type
  usable : ∀ param ∈ arguments method, param.name ≠ "" ∧ param.name ≠ "_"
  distinct : (receiver interface (arguments method) method.returns
    :: ((arguments method).map Param.name ++ declaredNames method.returns)).Nodup

/-- Where the names that a method declares differ, the names inside its mock are in order. -/
theorem forwarding_hygienic (interface : String) (method : Method)
    (distinct : (declaredNames (method.args ++ method.returns)).Nodup) :
    Hygienic interface method := by
  have types := arguments_types method
  have length : (arguments method).length = method.args.length := by
    simpa only [List.length_map] using congrArg List.length types
  refine ⟨fun index param => ?_, ?_, length, types, fun param member => ?_, ?_⟩
  · obtain ⟨rounds, bound, run⟩ := @fresh_renames "_" (by decide) ("arg" ++ toString index)
      (method.returns.map Param.name)
    rw [List.length_map] at bound
    exact ⟨rounds, bound, run⟩
  · obtain ⟨rounds, bound, run⟩ := @fresh_renames "_m" (by decide) (Naming.receiverName interface)
      ((arguments method ++ method.returns).map Param.name)
    rw [List.length_map, List.length_append, length] at bound
    exact ⟨rounds, bound, run⟩
  · simpa [isForwardable] using arguments_forwardable method param member
  · refine List.nodup_cons.2 ⟨fun member => ?_, arguments_nodup distinct⟩
    refine receiver_not_mem interface (arguments method) method.returns ?_
    rw [List.map_append]
    exact (List.mem_append.1 member).elim (List.mem_append_left _)
      fun declared => List.mem_append_right _ (mem_declaredNames declared)

/-- A method with an argument that has no name. Its results are called like a new name, like that
name after one round, and like a receiver. -/
def crowdedMethod : Method where
  name := "Swap"
  args := [⟨"x", .named "int"⟩, ⟨"", .unrecognised⟩]
  returns := [⟨"arg1", .named "int"⟩, ⟨"_", .named "error"⟩, ⟨"fm", .pointer (.named "T")⟩,
    ⟨"arg1_", .named "int"⟩, ⟨"_", .named "error"⟩]

example : (arguments crowdedMethod).map Param.name = ["arg0", "arg1__"]
    ∧ receiver "Foo" (arguments crowdedMethod) crowdedMethod.returns = "fm_m" := by
  cbv

theorem forwarding_hygienic_crowdedMethod :
    (declaredNames (crowdedMethod.args ++ crowdedMethod.returns)).Nodup
      ∧ Hygienic "Foo" crowdedMethod :=
  ⟨by decide, forwarding_hygienic "Foo" crowdedMethod (by decide)⟩

end Mock

end InterfaceMocks
