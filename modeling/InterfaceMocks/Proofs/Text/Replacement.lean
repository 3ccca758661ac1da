import InterfaceMocks.Layout.Placeholder
import InterfaceMocks.Text.Identifier
import Mathlib.Data.Fintype.Card

/-!
Replacing a text inside another. A part in which the pattern cannot start, or which keeps apart from
what follows it, stays as it is. The placeholder that is chosen for a source occurs nowhere in it: no
two candidates can occur at the same place, and there are more of them than places.
-/

namespace InterfaceMocks.Text

namespace Replace

variable {pattern replacement : List Char}

theorem occurs_iff {text : List Char} : occurs pattern text = true ↔ pattern <:+: text := by
  induction text with
  | nil => simp [occurs, List.isEmpty_iff]
  | cons c rest ih =>
      rw [occurs, Bool.or_eq_true, ih, List.isPrefixOf_iff_prefix, List.infix_cons_iff]

theorem not_occurs_of_infix {part text : List Char} (inside : part <:+: text)
    (absent : occurs pattern text = false) : occurs pattern part = false := by
  cases found : occurs pattern part with
  | false => rfl
  | true =>
      have whole := occurs_iff.2 ((occurs_iff.1 found).trans inside)
      exact absurd (whole.symm.trans absent) (by simp)

theorem replaceFrom_skip (first rest : List Char) :
    replaceFrom pattern replacement first.length (first ++ rest) =
      replaceFrom pattern replacement 0 rest := by
  induction first with
  | nil => rfl
  | cons c first ih => exact ih

theorem replaceFrom_pattern (some : pattern ≠ []) (rest : List Char) :
    replaceFrom pattern replacement 0 (pattern ++ rest) =
      replacement ++ replaceFrom pattern replacement 0 rest := by
  obtain ⟨c, more, rfl⟩ := List.exists_cons_of_ne_nil some
  have here : (c :: more).isPrefixOf (c :: (more ++ rest)) = true :=
    List.isPrefixOf_iff_prefix.2 ⟨rest, rfl⟩
  rw [List.cons_append, replaceFrom, if_pos here]
  simp [replaceFrom_skip more rest]

/-- A part in which no occurrence starts stays as it is. -/
theorem replaceFrom_append {part rest : List Char}
    (none : ∀ first second, part = first ++ second → second ≠ [] →
      ¬ pattern <+: second ++ rest) :
    replaceFrom pattern replacement 0 (part ++ rest) =
      part ++ replaceFrom pattern replacement 0 rest := by
  induction part with
  | nil => rfl
  | cons c part ih =>
      have here : ¬ pattern.isPrefixOf (c :: (part ++ rest)) = true := by
        rw [List.isPrefixOf_iff_prefix]
        exact none [] (c :: part) rfl (by simp)
      have later := ih fun first second same some =>
        none (c :: first) second (by simp [same]) some
      simp [replaceFrom, here, later]

theorem replaceFrom_of_absent {text : List Char} (absent : occurs pattern text = false) :
    replaceFrom pattern replacement 0 text = text := by
  have whole : replaceFrom pattern replacement 0 (text ++ []) =
      text ++ replaceFrom pattern replacement 0 [] := by
    refine replaceFrom_append fun first second split some starts => ?_
    rw [List.append_nil] at starts
    have found : occurs pattern text = true :=
      occurs_iff.2 (starts.isInfix.trans ⟨first, [], by simp [split]⟩)
    exact absurd (found.symm.trans absent) (by simp)
  simpa [replaceFrom] using whole

/-- Where the pattern occurs, the replacement occurs afterwards. -/
theorem occurs_replaceFrom (some : pattern ≠ []) {text : List Char}
    (found : occurs pattern text = true) :
    occurs replacement (replaceFrom pattern replacement 0 text) = true := by
  induction text with
  | nil => simp [occurs, some] at found
  | cons c rest ih =>
      rw [replaceFrom]
      split
      · exact occurs_iff.2 (List.prefix_append _ _).isInfix
      · rename_i other
        simp only [occurs, other, Bool.false_or] at found
        have later := occurs_iff.1 (ih found)
        exact occurs_iff.2 (later.trans (List.suffix_cons _ _).isInfix)

/-- Where the first character of the pattern does not stand, no occurrence starts. -/
theorem replaceFrom_append_of_not_mem {c : Char} {more : List Char} (same : pattern = c :: more)
    {part : List Char} (absent : c ∉ part) (rest : List Char) :
    replaceFrom pattern replacement 0 (part ++ rest) =
      part ++ replaceFrom pattern replacement 0 rest := by
  refine replaceFrom_append fun first second split some starts => ?_
  obtain ⟨d, second, rfl⟩ := List.exists_cons_of_ne_nil some
  rw [same, List.cons_append, List.cons_prefix_cons] at starts
  exact absent (split ▸ by simp [starts.1])

/-- An occurrence does not reach beyond a part that ends where the pattern cannot go on. -/
theorem prefix_within {part rest : List Char} (some : part ≠ [])
    (apart : (∀ c ∈ part.getLast?, c ∉ pattern) ∨ ∀ c ∈ rest.head?, c ∉ pattern)
    (starts : pattern <+: part ++ rest) : pattern <+: part := by
  have within : part <+: part ++ rest := List.prefix_append part rest
  rcases Nat.lt_or_ge part.length pattern.length with longer | shorter
  · obtain ⟨more, whole⟩ := List.prefix_of_prefix_length_le within starts (Nat.le_of_lt longer)
    exfalso
    rcases apart with last | next
    · refine last _ (List.getLast?_eq_some_getLast some) ?_
      exact whole ▸ List.mem_append_left _ (List.getLast_mem some)
    · have remains : more ≠ [] := by
        rintro rfl
        simp [← whole] at longer
      obtain ⟨d, more, rfl⟩ := List.exists_cons_of_ne_nil remains
      rw [← whole, List.prefix_append_right_inj] at starts
      obtain ⟨tail, rfl⟩ := starts
      exact next d rfl (whole ▸ by simp)
  · exact List.prefix_of_prefix_length_le starts within shorter

/-- A part that the pattern does not occur in, and that ends where the pattern cannot go on. -/
theorem replaceFrom_append_of_apart {inside : Char → Prop} (made : ∀ c ∈ pattern, inside c)
    {part rest : List Char} (absent : occurs pattern part = false)
    (apart : (∀ c ∈ part.getLast?, ¬ inside c) ∨ ∀ c ∈ rest.head?, ¬ inside c) :
    replaceFrom pattern replacement 0 (part ++ rest) =
      part ++ replaceFrom pattern replacement 0 rest := by
  refine replaceFrom_append fun first second split some starts => ?_
  have same : part.getLast? = second.getLast? := by
    rw [split, List.getLast?_append_of_ne_nil _ some]
  rw [same] at apart
  have inner : pattern <+: second := prefix_within some
    (apart.imp (fun last c found mem => last c found (made c mem))
      fun next c found mem => next c found (made c mem)) starts
  have found : occurs pattern part = true :=
    occurs_iff.2 (inner.isInfix.trans ⟨first, [], by simp [split]⟩)
  exact absurd (found.symm.trans absent) (by simp)

/-- At a character that the pattern does not have, replacing starts anew. -/
theorem replaceFrom_split {part rest : List Char}
    (closed : (∀ c ∈ part.getLast?, c ∉ pattern) ∨ ∀ c ∈ rest.head?, c ∉ pattern)
    {skip : Nat} (inside : skip ≤ part.length) :
    replaceFrom pattern replacement skip (part ++ rest) =
      replaceFrom pattern replacement skip part ++ replaceFrom pattern replacement 0 rest := by
  induction part generalizing skip with
  | nil =>
      obtain rfl : skip = 0 := by simpa using inside
      simp [replaceFrom]
  | cons c part ih =>
      have later : (∀ d ∈ part.getLast?, d ∉ pattern) ∨ ∀ d ∈ rest.head?, d ∉ pattern := by
        refine closed.imp (fun last d found => last d ?_) id
        cases part with
        | nil => simp at found
        | cons e part => simpa [List.getLast?_cons_cons] using found
      cases skip with
      | succ skip => exact ih later (by simpa using inside)
      | zero =>
          by_cases here : pattern <+: c :: (part ++ rest)
          · have inner := prefix_within (List.cons_ne_nil c part) closed here
            have short := inner.length_le
            have more := ih later (show pattern.length - 1 ≤ part.length by
              simp only [List.length_cons] at short
              omega)
            simp only [List.cons_append, replaceFrom, List.isPrefixOf_iff_prefix.2 here,
              List.isPrefixOf_iff_prefix.2 inner, if_true, more, List.append_assoc]
          · have outer : ¬ pattern <+: c :: part := fun starts =>
              here (starts.trans (List.prefix_append _ _))
            have more := ih later (Nat.zero_le _)
            rw [← List.isPrefixOf_iff_prefix] at here outer
            simp only [List.cons_append, replaceFrom, here, outer, more]
            simp

end Replace

end InterfaceMocks.Text

namespace InterfaceMocks.Placeholder

open InterfaceMocks.Text

/-! Candidates. -/

theorem ofDigitChars_zeros (count : Nat) (digits : List Char) :
    Nat.ofDigitChars 10 (List.replicate count '0' ++ digits) 0 =
      Nat.ofDigitChars 10 digits 0 := by
  induction count with
  | zero => rfl
  | succ count ih => simpa [List.replicate_succ, Nat.ofDigitChars_cons] using ih

theorem ofDigitChars_fiveDigits (n : Nat) :
    Nat.ofDigitChars 10 (fiveDigits n).toList 0 = n := by
  rw [fiveDigits, String.toList_ofList, ofDigitChars_zeros, Nat.ofDigitChars_ten_toDigits]

theorem fiveDigits_isDigit {n : Nat} {c : Char} (member : c ∈ (fiveDigits n).toList) :
    c.isDigit = true := by
  rw [fiveDigits, String.toList_ofList, List.mem_append, List.mem_replicate] at member
  rcases member with ⟨-, rfl⟩ | member
  · rfl
  · exact Nat.isDigit_of_mem_toDigits (by decide) (by decide) member

theorem fiveDigits_ne_nil (n : Nat) : (fiveDigits n).toList ≠ [] := by
  rw [fiveDigits, String.toList_ofList]
  simp [Nat.toDigits_ne_nil]

def isPlain (c : Char) : Prop := c.isAlphanum = true ∨ c = '_'

theorem candidate_plain {n : Nat} {c : Char} (member : c ∈ (candidate n).toList) : isPlain c := by
  cases n with
  | zero =>
      have checked : ∀ c ∈ preferred.toList, isPlain c := by
        simp [preferred, isPlain]
      exact checked c member
  | succ n =>
      rw [candidate, numbered, String.toList_append, String.toList_append, List.mem_append,
        List.mem_append] at member
      rcases member with (start | digit) | last
      · have checked : ∀ c ∈ "_unrecog".toList, isPlain c := by
          simp [isPlain]
        exact checked c start
      · exact .inl (by simp [Char.isAlphanum, fiveDigits_isDigit digit])
      · exact .inr (by simpa using last)

theorem isPlain_small {c : Char} (plain : isPlain c) : c.val < 128 := by
  rcases plain with letter | rfl
  · simp only [Char.isAlphanum, Bool.or_eq_true, Identifier.isAlpha_iff, Char.isDigit,
      Bool.and_eq_true, decide_eq_true_eq, UInt32.le_iff_toNat_le] at letter
    have nine : '9'.val.toNat = 57 := rfl
    rw [UInt32.lt_iff_toNat_lt]
    show c.val.toNat < 128
    omega
  · decide

theorem continues_of_isPlain {c : Char} (plain : isPlain c) : Identifier.continues c = true := by
  rw [Identifier.continues, if_pos (isPlain_small plain), Bool.or_eq_true, beq_iff_eq]
  exact plain

theorem candidate_start (n : Nat) : ∃ more, (candidate n).toList = '_' :: more := by
  cases n with
  | zero => exact ⟨"unrecognised_".toList, by simp [candidate, preferred]⟩
  | succ n => exact ⟨_, by simp [candidate, numbered]; rfl⟩

/-- A candidate is spelled like an identifier. -/
theorem candidate_isIdentifier (n : Nat) : Identifier.isIdentifier (candidate n) = true := by
  obtain ⟨more, same⟩ := candidate_start n
  have rest : more.all Identifier.continues = true := by
    rw [List.all_eq_true]
    intro c member
    exact continues_of_isPlain (candidate_plain (n := n) (same ▸ List.mem_cons_of_mem _ member))
  rw [Identifier.isIdentifier, same]
  simp only [rest, Bool.and_true]
  decide

/-- Where digits end, two runs of digits that start alike are equal. -/
theorem digits_prefix {first second : List Char} (rest rest' : List Char)
    (isDigit : ∀ c ∈ first, c.isDigit = true) (isDigit' : ∀ c ∈ second, c.isDigit = true)
    (starts : first ++ '_' :: rest = second ++ '_' :: rest') : first = second := by
  induction first generalizing second with
  | nil =>
      cases second with
      | nil => rfl
      | cons d second =>
          have digit := isDigit' d List.mem_cons_self
          obtain ⟨rfl, -⟩ := List.cons.inj starts
          exact absurd digit (by decide)
  | cons c first ih =>
      cases second with
      | nil =>
          have digit := isDigit c List.mem_cons_self
          obtain ⟨rfl, -⟩ := List.cons.inj starts
          exact absurd digit (by decide)
      | cons d second =>
          obtain ⟨rfl, later⟩ := List.cons.inj starts
          rw [ih (fun e member => isDigit e (List.mem_cons_of_mem _ member))
            (fun e member => isDigit' e (List.mem_cons_of_mem _ member)) later]

theorem candidate_succ (n : Nat) (rest : List Char) :
    (candidate (n + 1)).toList ++ rest =
      "_unrecog".toList ++ ((fiveDigits n).toList ++ '_' :: rest) := by
  simp [candidate, numbered]

/-- The usual placeholder goes on with a letter where the others have a digit. -/
theorem preferred_apart {n : Nat} {rest rest' : List Char} :
    preferred.toList ++ rest ≠ (candidate (n + 1)).toList ++ rest' := by
  intro same
  have split : preferred.toList ++ rest = "_unrecog".toList ++ ("nised_".toList ++ rest) := by
    simp [preferred]
  rw [split, candidate_succ, List.append_cancel_left_eq] at same
  obtain ⟨c, more, digits⟩ := List.exists_cons_of_ne_nil (fiveDigits_ne_nil n)
  rw [digits] at same
  have first : 'n' = c := by simpa using congrArg List.head? same
  have digit : c.isDigit = true := fiveDigits_isDigit (n := n) (digits ▸ List.mem_cons_self)
  exact absurd (first ▸ digit) (by decide)

/-- No two candidates can stand at the same place. -/
theorem candidate_injective {m n : Nat} {rest rest' : List Char}
    (same : (candidate m).toList ++ rest = (candidate n).toList ++ rest') : m = n := by
  cases m with
  | zero =>
      cases n with
      | zero => rfl
      | succ n => exact absurd same preferred_apart
  | succ m =>
      cases n with
      | zero => exact absurd same.symm preferred_apart
      | succ n =>
          rw [candidate_succ, candidate_succ, List.append_cancel_left_eq] at same
          have digits := digits_prefix _ _ (fun _ => fiveDigits_isDigit)
            (fun _ => fiveDigits_isDigit) same
          have value := congrArg (fun digits => Nat.ofDigitChars 10 digits 0) digits
          simp only [ofDigitChars_fiveDigits] at value
          rw [value]

/-! The search. -/

/-- A place where the candidate stands. -/
theorem candidate_place {source : String} {n : Nat}
    (found : contains source (candidate n) = true) :
    ∃ place : Fin source.length, ∃ rest,
      source.toList.drop place = (candidate n).toList ++ rest := by
  obtain ⟨before, after, same⟩ := Replace.occurs_iff.1 found
  have size : before.length < source.length := by
    rw [← String.length_toList, ← same]
    have some : (candidate n).toList ≠ [] := by
      cases n <;> simp [candidate, preferred, numbered]
    have := List.length_pos_iff.2 some
    simp only [List.length_append]
    omega
  exact ⟨⟨before.length, size⟩, after, by simp [← same]⟩

/-- A text has fewer places than there are candidates, so one of them occurs nowhere in it. -/
theorem candidate_free (source : String) :
    ∃ n ≤ source.length, contains source (candidate n) = false := by
  by_contra none
  have places (n : Fin (source.length + 1)) : ∃ place : Fin source.length, ∃ rest,
      source.toList.drop place = (candidate n).toList ++ rest := by
    refine candidate_place (Bool.eq_true_of_not_eq_false fun free => none ⟨n, ?_, free⟩)
    omega
  choose place rest stands using places
  have injective : Function.Injective place := by
    intro m n same
    have equal := (stands m).symm.trans (same ▸ stands n)
    exact Fin.ext (candidate_injective equal)
  have := Fintype.card_le_of_injective place injective
  simp only [Fintype.card_fin] at this
  omega

/-- The search ends at the first candidate that does not occur, where it gets that far. -/
theorem search_eq_some {source : String} {next n count : Nat}
    (occur : ∀ m, next ≤ m → m < n → contains source (candidate m) = true)
    (free : contains source (candidate n) = false) (least : next ≤ n) (most : n < next + count) :
    search source next count = some (candidate n) := by
  induction count generalizing next with
  | zero => omega
  | succ count ih =>
      rcases Nat.eq_or_lt_of_le least with rfl | more
      · simp [search, free]
      · have later := ih (fun m low high => occur m (by omega) high) more (by omega)
        simp [search, occur next le_rfl more, later]

/-- The first candidate that does not occur in the source, and those before it, which do. -/
theorem first_free (source : String) :
    ∃ n ≤ source.length, contains source (candidate n) = false
      ∧ ∀ m < n, contains source (candidate m) = true := by
  obtain ⟨n, small, here⟩ := candidate_free source
  have free : ∃ n, contains source (candidate n) = false := ⟨n, here⟩
  refine ⟨Nat.find free, (Nat.find_min' free here).trans small, Nat.find_spec free, ?_⟩
  exact fun m less => Bool.eq_true_of_not_eq_false (Nat.find_min free less)

/-- The placeholder is one of the candidates, and occurs nowhere in the source. -/
theorem choose_fresh (source : String) :
    ∃ n, choose source = candidate n ∧ contains source (candidate n) = false := by
  obtain ⟨n, small, free, occur⟩ := first_free source
  have found : search source 0 (source.length + 1) = some (candidate n) :=
    search_eq_some (fun m _ less => occur m less) free (Nat.zero_le n) (by omega)
  exact ⟨n, by simp [choose, found], free⟩

end InterfaceMocks.Placeholder
