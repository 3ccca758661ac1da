import InterfaceMocks.Syntax.Lexer

/-!
The longest match of a regular expression. A text that matches as a whole is the longest match
wherever the character after it cannot belong to a match, which is how a number is cut off.
-/

namespace InterfaceMocks.Text.Pattern

def avoids (c : Char) : Pattern → Bool
  | void | empty => true
  | one accepts => !accepts c
  | seq first second | alt first second => first.avoids c && second.avoids c
  | star body => body.avoids c

def startsWith (c : Char) : Pattern → Bool
  | void | empty => false
  | one accepts => accepts c
  | seq first second => first.startsWith c || (first.nullable && second.startsWith c)
  | alt first second => first.startsWith c || second.startsWith c
  | star body => body.startsWith c

@[simp] theorem andThen_void (p : Pattern) : void.andThen p = void := rfl

@[simp] theorem orElse_void (p : Pattern) : void.orElse p = p := by cases p <;> rfl

theorem derivative_of_startsWith {c : Char} {p : Pattern} (never : p.startsWith c = false) :
    p.derivative c = void := by
  induction p with
  | void => rfl
  | empty => rfl
  | one accepts => simp_all [startsWith, derivative]
  | seq first second firstIh secondIh =>
      simp only [startsWith, Bool.or_eq_false_iff, Bool.and_eq_false_iff] at never
      cases nullable : first.nullable with
      | true =>
          have later : second.startsWith c = false := by simpa [nullable] using never.2
          simp [derivative, nullable, firstIh never.1, secondIh later]
      | false => simp [derivative, nullable, firstIh never.1]
  | alt first second firstIh secondIh =>
      simp only [startsWith, Bool.or_eq_false_iff] at never
      simp [derivative, firstIh never.1, secondIh never.2]
  | star body ih => simp [derivative, ih never]

theorem startsWith_of_avoids {c : Char} {p : Pattern} (never : p.avoids c = true) :
    p.startsWith c = false := by
  induction p with
  | seq first second firstIh secondIh | alt first second firstIh secondIh =>
      simp only [avoids, Bool.and_eq_true] at never
      simp [startsWith, firstIh never.1, secondIh never.2]
  | _ => simp_all [avoids, startsWith]

theorem avoids_andThen {c : Char} {p q : Pattern} (first : p.avoids c = true)
    (second : q.avoids c = true) : (p.andThen q).avoids c = true := by
  cases p <;> simp_all [andThen, avoids]

theorem avoids_orElse {c : Char} {p q : Pattern} (first : p.avoids c = true)
    (second : q.avoids c = true) : (p.orElse q).avoids c = true := by
  cases p <;> cases q <;> simp_all [orElse, avoids]

theorem avoids_derivative {c d : Char} {p : Pattern} (never : p.avoids c = true) :
    (p.derivative d).avoids c = true := by
  induction p with
  | void => rfl
  | empty => rfl
  | one accepts =>
      simp only [derivative]
      split <;> rfl
  | seq first second firstIh secondIh =>
      simp only [avoids, Bool.and_eq_true] at never
      simp only [derivative]
      split
      · exact avoids_orElse (avoids_andThen (firstIh never.1) never.2) (secondIh never.2)
      · exact avoids_andThen (firstIh never.1) never.2
  | alt first second firstIh secondIh =>
      simp only [avoids, Bool.and_eq_true] at never
      exact avoids_orElse (firstIh never.1) (secondIh never.2)
  | star body ih => exact avoids_andThen (ih never) never

theorem nullable_of_isVoid {p : Pattern} (none : p.isVoid = true) : p.nullable = false := by
  induction p with
  | seq first second firstIh secondIh =>
      simp only [isVoid, Bool.or_eq_true] at none
      rcases none with none | none
      · simp [nullable, firstIh none]
      · simp [nullable, secondIh none]
  | alt first second firstIh secondIh =>
      simp only [isVoid, Bool.and_eq_true] at none
      simp [nullable, firstIh none.1, secondIh none.2]
  | _ => simp_all [isVoid, nullable]

theorem isVoid_andThen {p q : Pattern} (none : p.isVoid = true ∨ q.isVoid = true) :
    (p.andThen q).isVoid = true := by
  cases p <;> simp_all [andThen, isVoid]

theorem isVoid_orElse {p q : Pattern} (first : p.isVoid = true) (second : q.isVoid = true) :
    (p.orElse q).isVoid = true := by
  cases p <;> cases q <;> simp_all [orElse, isVoid]

theorem isVoid_derivative {p : Pattern} (none : p.isVoid = true) (c : Char) :
    (p.derivative c).isVoid = true := by
  induction p with
  | seq first second firstIh secondIh =>
      simp only [isVoid, Bool.or_eq_true] at none
      simp only [derivative]
      rcases none with none | none
      · simp [nullable_of_isVoid none, isVoid_andThen (.inl (firstIh none))]
      · split
        · exact isVoid_orElse (isVoid_andThen (.inr none)) (secondIh none)
        · exact isVoid_andThen (.inr none)
  | alt first second firstIh secondIh =>
      simp only [isVoid, Bool.and_eq_true] at none
      exact isVoid_orElse (firstIh none.1) (secondIh none.2)
  | void => rfl
  | empty | one _ | star _ => simp [isVoid] at none

theorem not_accepts_of_isVoid {p : Pattern} (none : p.isVoid = true) (cs : List Char) :
    p.accepts cs = false := by
  induction cs generalizing p with
  | nil => exact nullable_of_isVoid none
  | cons c rest ih => exact ih (isVoid_derivative none c)

theorem not_mem_of_avoids {c : Char} {p : Pattern} {cs : List Char} (never : p.avoids c = true)
    (whole : p.accepts cs = true) : c ∉ cs := by
  induction cs generalizing p with
  | nil => simp
  | cons d rest ih =>
      intro member
      rcases List.mem_cons.1 member with rfl | later
      · have none : p.accepts (c :: rest) = false := by
          rw [accepts, derivative_of_startsWith (startsWith_of_avoids never)]
          exact not_accepts_of_isVoid rfl rest
        exact absurd (whole.symm.trans none) (by simp)
      · exact ih (avoids_derivative never) whole later

theorem longest_void (cs : List Char) : void.longest cs = none := by
  cases cs <;> rfl

/-- A character that stands in no match ends the longest. -/
theorem longest_append {c : Char} {p : Pattern} (never : p.avoids c = true) (cs rest : List Char) :
    p.longest (cs ++ c :: rest) = p.longest cs := by
  induction cs generalizing p with
  | nil =>
      have stuck := derivative_of_startsWith (startsWith_of_avoids never)
      by_cases none : p.isVoid = true
      · simp [longest, none, nullable_of_isVoid none]
      · simp [longest, none, stuck, longest_void]
  | cons d cs ih => simp [longest, ih (avoids_derivative never)]

/-- The longest match is a match. -/
theorem longest_accepts {p : Pattern} {cs : List Char} {n : Nat} (found : p.longest cs = some n) :
    n ≤ cs.length ∧ p.accepts (cs.take n) = true := by
  induction cs generalizing p n with
  | nil =>
      simp only [longest, Option.ite_none_right_eq_some, Option.some.injEq] at found
      obtain ⟨stops, rfl⟩ := found
      exact ⟨Nat.le_refl _, stops⟩
  | cons c rest ih =>
      simp only [longest] at found
      split at found
      · simp at found
      · split at found
        · rename_i m later
          obtain rfl := Option.some.inj found
          exact ⟨Nat.succ_le_succ (ih later).1, (ih later).2⟩
        · simp only [Option.ite_none_right_eq_some, Option.some.injEq] at found
          obtain ⟨stops, rfl⟩ := found
          exact ⟨Nat.zero_le _, stops⟩

/-- A text that matches is its own longest match. -/
theorem longest_of_accepts {p : Pattern} {cs : List Char} (whole : p.accepts cs = true) :
    p.longest cs = some cs.length := by
  induction cs generalizing p with
  | nil => simpa [longest, accepts] using whole
  | cons c rest ih =>
      have some : ¬ p.isVoid = true := by
        intro none
        rw [not_accepts_of_isVoid none] at whole
        simp at whole
      simp [longest, some, ih whole]

end InterfaceMocks.Text.Pattern
