import InterfaceMocks.Mock.Forwarding
import InterfaceMocks.Proofs.Written.Spelling

/-!
The names of a mock are identifiers, and none of the words by which the grammar tells one form from
another.
-/

namespace InterfaceMocks.Mock

open InterfaceMocks.Text
open InterfaceMocks.Written
open InterfaceMocks.Grammar (typeWords expressionWords statementWords)

theorem isName_append {first second : String} (isName : IsName first) (more : Continues second) :
    IsName (first ++ second) := by
  simp only [IsName, Identifier.isIdentifier, String.toList_append] at *
  cases cs : first.toList with
  | nil => simp [cs] at isName
  | cons c rest =>
      rw [cs] at isName
      simp only [Bool.and_eq_true, List.all_eq_true] at isName
      simp only [List.cons_append, List.all_append, Bool.and_eq_true, List.all_eq_true]
      exact ⟨isName.1, isName.2, more⟩

/-! Names made from the name of an interface or a method. -/

theorem structName_isName {interface : String} (titled : Continues (Naming.title interface)) :
    IsName (Naming.structName interface) :=
  isName_append (by decide) titled

theorem fieldName_isName {method : String} (titled : Continues (Naming.title method)) :
    IsName (Naming.fieldName method) :=
  isName_append (by decide) titled

theorem structName_plain (interface : String) : Naming.structName interface ∉ typeWords := by
  intro member
  simp only [typeWords, List.mem_cons, List.not_mem_nil, or_false] at member
  rcases member with same | same | same | same | same <;>
    simpa [Naming.structName] using congrArg String.toList same

/-- What holds of each of the ASCII characters holds of a character below 128. -/
theorem of_ascii {P : Char → Prop} (all : ∀ n : Fin 128, P (Char.ofNat n)) {c : Char}
    (ascii : c.val < 128) : P c := by
  have small : c.toNat < 128 := ascii
  have same : Char.ofNat c.toNat = c := Char.ofNat_toNat c
  exact same ▸ all ⟨c.toNat, small⟩

theorem ascii_case {c : Char} (ascii : c.val < 128) (opens : Identifier.opens c = true) :
    Identifier.continues c.toUpper = true ∧ Identifier.opens c.toLower = true := by
  have all : ∀ n : Fin 128, Identifier.opens (Char.ofNat n) = true →
      Identifier.continues (Char.ofNat n).toUpper = true
        ∧ Identifier.opens (Char.ofNat n).toLower = true := by
    decide
  exact of_ascii (P := fun c => Identifier.opens c = true →
    Identifier.continues c.toUpper = true ∧ Identifier.opens c.toLower = true) all ascii opens

theorem ascii_of_letter {c : Char} (letter : c = '_' ∨ c.isAlpha = true) : c.val < 128 := by
  rcases letter with rfl | alpha
  · decide
  · have codes := Identifier.isAlpha_iff.1 alpha
    have bound : (128 : UInt32).toNat = 128 := rfl
    rw [UInt32.lt_iff_toNat_lt]
    omega

def StartsPlain (text : String) : Prop := ∀ c ∈ text.toList.head?, c = '_' ∨ c.isAlpha = true

theorem title_continues {name : String} (isName : IsName name) (plain : StartsPlain name) :
    Continues (Naming.title name) := by
  obtain ⟨c, rest, chars, opens, more⟩ := isName_first isName
  have ascii : c.val < 128 := ascii_of_letter (plain c (by simp [chars]))
  have title : (Naming.title name).toList = c.toUpper :: rest := by
    simp [Naming.title, chars, LetterCase.upper, ascii]
  intro d member
  rw [title] at member
  rcases List.mem_cons.1 member with rfl | later
  · exact (ascii_case ascii opens).1
  · exact more d later

theorem receiverName_isName {interface : String} (isName : IsName interface)
    (plain : StartsPlain interface) : IsName (Naming.receiverName interface) := by
  obtain ⟨c, rest, chars, opens, -⟩ := isName_first isName
  have ascii : c.val < 128 := ascii_of_letter (plain c (by simp [chars]))
  have lower := (ascii_case ascii opens).2
  simp [IsName, Identifier.isIdentifier, Naming.receiverName, chars, LetterCase.lower, ascii, lower]
  decide

/-! Names that keep clear of others. -/

/-- A name that keeps clear of others is the given one with the suffix some times. -/
theorem fresh_spec (suffix name : String) (taken : List String) :
    ∃ count, Forwarding.fresh suffix name taken =
      name ++ String.join (List.replicate count suffix) := by
  fun_induction Forwarding.fresh suffix name taken with
  | case1 name taken member ih =>
      obtain ⟨count, same⟩ := ih
      exact ⟨count + 1, by rw [same, List.replicate_succ, String.join_cons, String.append_assoc]⟩
  | case2 name taken absent => exact ⟨0, by simp⟩

theorem continues_join {texts : List String} (each : ∀ text ∈ texts, Continues text) :
    Continues (String.join texts) := by
  induction texts with
  | nil => exact fun c member => absurd member (by simp)
  | cons text texts ih =>
      intro c member
      rw [String.join_cons, String.toList_append, List.mem_append] at member
      rcases member with here | later
      · exact each text List.mem_cons_self c here
      · exact ih (fun other found => each other (List.mem_cons_of_mem _ found)) c later

/-- The suffixes by which a receiver and an argument keep clear of others. -/
theorem continues_suffixes : Continues "_m" ∧ Continues "_" := by
  have each : Identifier.continues '_' = true ∧ Identifier.continues 'm' = true := by decide
  simp [Continues, each]

theorem fresh_isName {suffix name : String} (isName : IsName name) (more : Continues suffix)
    (taken : List String) : IsName (Forwarding.fresh suffix name taken) := by
  obtain ⟨count, same⟩ := fresh_spec suffix name taken
  rw [same]
  refine isName_append isName (continues_join fun text member => ?_)
  rw [List.eq_of_mem_replicate member]
  exact more

/-- The receiver ends with an `m`, as none of the words of the grammar does. -/
theorem receiver_ends (interface : String) (args returns : List Param) :
    (Forwarding.receiver interface args returns).toList.getLast? = some 'm' := by
  obtain ⟨count, same⟩ := fresh_spec "_m" (Naming.receiverName interface)
    ((args ++ returns).map Param.name)
  have base : (Naming.receiverName interface).toList.getLast? = some 'm' := by
    unfold Naming.receiverName
    split <;> simp
  rw [Forwarding.receiver, same]
  induction count with
  | zero => simpa using base
  | succ count ih =>
      rw [List.replicate_succ', String.join_append, ← String.append_assoc]
      simp

theorem receiver_readable (interface : String) (args returns : List Param) :
    ReceiverReadable (Forwarding.receiver interface args returns) := by
  have ends := receiver_ends interface args returns
  constructor
  · intro member
    have all : ∀ word ∈ expressionWords, word.toList.getLast? ≠ some 'm' := by decide
    exact all _ member ends
  · intro member
    have all : ∀ word ∈ statementWords, word.toList.getLast? ≠ some 'm' := by decide
    exact all _ member ends

theorem receiver_isName {interface : String} (isName : IsName (Naming.receiverName interface))
    (args returns : List Param) : IsName (Forwarding.receiver interface args returns) :=
  fresh_isName isName continues_suffixes.1 _

/-! The names by which arguments are handed on. -/

theorem continues_digits (n : Nat) : Continues (toString n) := by
  intro c member
  rw [Nat.toString_eq_repr, Nat.toList_repr] at member
  have digit := Nat.isDigit_of_mem_toDigits (by decide) (by decide) member
  have small : c.val < 128 := by
    simp only [Char.isDigit, Bool.and_eq_true, decide_eq_true_eq] at digit
    exact Nat.lt_of_le_of_lt digit.2 (by decide)
  simp [Identifier.continues, small, Char.isAlphanum, digit]

theorem renamed_isName (taken : List String) (index : Nat) (param : Param) :
    IsName (Forwarding.renamed taken index param).name :=
  fresh_isName (isName_append (by decide) (continues_digits index)) continues_suffixes.2 taken

theorem renamed_start (taken : List String) (index : Nat) (param : Param) :
    ∃ more, (Forwarding.renamed taken index param).name.toList = "arg".toList ++ more := by
  obtain ⟨count, same⟩ := fresh_spec "_" ("arg" ++ toString index) taken
  rw [Forwarding.renamed, same, String.toList_append, String.toList_append, List.append_assoc]
  exact ⟨_, rfl⟩

theorem renamed_plain (taken : List String) (index : Nat) (param : Param) :
    (Forwarding.renamed taken index param).name ∉ typeWords := by
  obtain ⟨more, start⟩ := renamed_start taken index param
  have all : ∀ word ∈ typeWords, ¬ "arg".toList <+: word.toList := by decide
  exact fun member => all _ member ⟨more, start.symm⟩

/-- An argument is handed on under its own name or under a new one, with its own type. -/
theorem arguments_spec {method : Method} {param : Param}
    (member : param ∈ Forwarding.arguments method) :
    (param ∈ method.args ∧ Forwarding.isForwardable param = true ∧
        method.args.all Forwarding.isForwardable = true)
      ∨ ∃ original ∈ method.args, ∃ index,
          param = Forwarding.renamed (method.returns.map Param.name) index original := by
  rw [Forwarding.arguments] at member
  by_cases all : method.args.all Forwarding.isForwardable = true
  · rw [if_pos all] at member
    exact .inl ⟨member, List.all_eq_true.1 all param member, all⟩
  · rw [if_neg all] at member
    obtain ⟨index, bound, same⟩ := List.mem_mapIdx.1 member
    exact .inr ⟨method.args[index], List.getElem_mem bound, index, same.symm⟩

/-- Arguments keep their types under the names by which they are handed on. -/
theorem arguments_types (method : Method) :
    (Forwarding.arguments method).map Param.type = method.args.map Param.type := by
  rw [Forwarding.arguments]
  split
  · rfl
  · refine List.ext_getElem? fun index => ?_
    simp only [List.getElem?_map, List.getElem?_mapIdx, Option.map_map]
    rfl

theorem arguments_named {method : Method} {param : Param}
    (member : param ∈ Forwarding.arguments method) : param.name ≠ "" := by
  rcases arguments_spec member with ⟨-, forwardable, -⟩ | ⟨original, -, index, rfl⟩
  · rintro none
    simp [Forwarding.isForwardable, none] at forwardable
  · exact isName_ne (renamed_isName ..)

end InterfaceMocks.Mock
