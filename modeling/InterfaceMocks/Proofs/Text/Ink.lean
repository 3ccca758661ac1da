import InterfaceMocks.Text.Blank

/-!
Ink is what a text has besides white space. Collapsing white space keeps the ink, is done once and for
all, and leaves a text with ink at both ends. Two texts with ink at their ends are the same if they
start alike and have as much of it.
-/

namespace InterfaceMocks.Text

def White (cs : List Char) : Prop := ∀ c ∈ cs, isBlank c = true

instance (cs : List Char) : Decidable (White cs) :=
  List.decidableBAll _ cs

/-- The number of characters that are not white space. -/
def ink (cs : List Char) : Nat := cs.countP fun c => !isBlank c

def Opens (cs : List Char) : Prop := ∃ c rest, cs = c :: rest ∧ isBlank c = false

def Closes (cs : List Char) : Prop := ∃ rest c, cs = rest ++ [c] ∧ isBlank c = false

@[simp] theorem white_nil : White [] := by simp [White]

@[simp] theorem white_append {first second : List Char} :
    White (first ++ second) ↔ White first ∧ White second := by
  simp [White, or_imp, forall_and]

@[simp] theorem ink_nil : ink [] = 0 := rfl

@[simp] theorem ink_append (first second : List Char) :
    ink (first ++ second) = ink first + ink second := List.countP_append

theorem ink_eq_zero {cs : List Char} : ink cs = 0 ↔ White cs := by
  simp [ink, White, List.countP_eq_zero]

theorem White.ink {cs : List Char} (white : White cs) : ink cs = 0 := ink_eq_zero.2 white

theorem white_replicate {c : Char} (blank : isBlank c = true) (count : Nat) :
    White (List.replicate count c) :=
  fun _ member => (List.eq_of_mem_replicate member) ▸ blank

theorem Opens.append {first : List Char} (opens : Opens first) (second : List Char) :
    Opens (first ++ second) := by
  obtain ⟨c, rest, rfl, solid⟩ := opens
  exact ⟨c, rest ++ second, rfl, solid⟩

theorem Closes.append {second : List Char} (closes : Closes second) (first : List Char) :
    Closes (first ++ second) := by
  obtain ⟨rest, c, rfl, solid⟩ := closes
  exact ⟨first ++ rest, c, by simp, solid⟩

theorem Opens.ink_pos {cs : List Char} (opens : Opens cs) : 0 < ink cs := by
  obtain ⟨c, rest, rfl, solid⟩ := opens
  simp [ink, solid]

theorem Opens.ne_empty {text : String} (opens : Opens text.toList) : text ≠ "" := by
  rintro rfl
  simpa using opens.ink_pos

theorem Opens.takeWhile {cs : List Char} (opens : Opens cs) : cs.takeWhile isBlank = [] := by
  obtain ⟨c, rest, rfl, solid⟩ := opens
  simp [solid]

/-- White space before a text is part of the white space before the ink. -/
theorem white_before {space rest gap solid : List Char} (white : White space) (blank : White gap)
    (opens : Opens solid) (same : space ++ rest = gap ++ solid) :
    ∃ more, gap = space ++ more ∧ rest = more ++ solid := by
  have cut := congrArg (List.takeWhile isBlank) same
  rw [List.takeWhile_append_of_pos white, List.takeWhile_append_of_pos blank, opens.takeWhile,
    List.append_nil] at cut
  refine ⟨rest.takeWhile isBlank, cut.symm, ?_⟩
  rw [← cut, List.append_assoc] at same
  exact List.append_cancel_left same

theorem white_eq_nil_of_opens {gap first second : List Char} (blank : White gap)
    (opens : Opens first) (same : first = gap ++ second) : gap = [] := by
  have cut := congrArg (List.takeWhile isBlank) same
  rw [opens.takeWhile, List.takeWhile_append_of_pos blank] at cut
  exact (List.append_eq_nil_iff.1 cut.symm).1

theorem white_unique {space gap first second : List Char} (white : White space) (blank : White gap)
    (opens : Opens first) (opens' : Opens second) (same : space ++ first = gap ++ second) :
    gap = space ∧ first = second := by
  obtain ⟨more, split, rest⟩ := white_before white blank opens' same
  rw [split, white_append] at blank
  obtain rfl := white_eq_nil_of_opens blank.2 opens rest
  exact ⟨by simpa using split, rest⟩

/-- Two beginnings of a text that end with ink are the same if they have as much of it. -/
theorem closes_unique {first second rest rest' : List Char} (closes : Closes first)
    (closes' : Closes second) (amount : ink first = ink second)
    (same : first ++ rest = second ++ rest') : first = second := by
-- one of the two is a part of the other, and what it lacks has no ink and no end
  have none {short more : List Char} (closes : Closes (short ++ more))
      (amount : ink (short ++ more) = ink short) : more = [] := by
    rw [ink_append] at amount
    have white : White more := ink_eq_zero.1 (by omega)
    obtain ⟨before, c, whole, solid⟩ := closes
    rcases List.eq_nil_or_concat more with nil | ⟨inner, last, rfl⟩
    · exact nil
    · rw [List.concat_eq_append, ← List.append_assoc] at whole
      obtain rfl : last = c := by simpa using (List.append_inj' whole rfl).2
      have := white last (by simp)
      simp [solid] at this
  rcases List.append_eq_append_iff.1 same with ⟨more, rfl, -⟩ | ⟨more, rfl, -⟩
  · rw [none closes' amount.symm, List.append_nil]
  · rw [none closes amount, List.append_nil]

/-! White space collapsed. -/

def IsWord (word : List Char) : Prop := word ≠ [] ∧ ∀ c ∈ word, isBlank c = false

namespace Words

theorem split_blank {c : Char} (blank : isBlank c = true) (rest : List Char) :
    split (c :: rest) = split rest := by
  simp [split, blank]

/-- A word, and then the words of what comes after it. -/
theorem split_append {word rest : List Char} (isWord : IsWord word)
    (ends : opensWord rest = false) : split (word ++ rest) = word :: split rest := by
  obtain ⟨some, solid⟩ := isWord
  induction word with
  | nil => exact absurd rfl some
  | cons c more ih =>
      have here : isBlank c = false := solid c List.mem_cons_self
      cases more with
      | nil => simp [split, here, ends, attach]
      | cons d others =>
          have later := ih (by simp) fun e member => solid e (List.mem_cons_of_mem _ member)
-- the next character belongs to the same word, so the first one is put before it
          have goesOn : opensWord (d :: others ++ rest) = true := by
            simp [opensWord, solid d (by simp)]
          rw [List.cons_append, split, if_neg (by simp [here]), later, goesOn]
          rfl

theorem split_words (cs : List Char) : ∀ word ∈ split cs, IsWord word := by
  induction cs with
  | nil => simp [split]
  | cons c rest ih =>
      cases blank : isBlank c with
      | true => rwa [split_blank blank]
      | false =>
          rw [split, if_neg (by simp [blank])]
          intro word member
          unfold attach at member
          split at member
          · rename_i first more _ found
            rw [found] at ih
            rcases List.mem_cons.1 member with rfl | member
            · refine ⟨by simp, fun d inside => ?_⟩
              rcases List.mem_cons.1 inside with rfl | inside
              · exact blank
              · exact (ih first List.mem_cons_self).2 d inside
            · exact ih word (List.mem_cons_of_mem _ member)
          · rcases List.mem_cons.1 member with rfl | member
            · exact ⟨by simp, by simp [blank]⟩
            · exact ih word member

theorem split_flatten (cs : List Char) : (split cs).flatten = cs.filter fun c => !isBlank c := by
  induction cs with
  | nil => rfl
  | cons c rest ih =>
      cases blank : isBlank c with
      | true => simp [split_blank blank, ih, blank]
      | false =>
          rw [split, if_neg (by simp [blank]), List.filter_cons_of_pos (by simp [blank]), ← ih]
          unfold attach
          split
          · rename_i found
            simp [found]
          · simp

theorem split_intercalate {words : List (List Char)} (each : ∀ word ∈ words, IsWord word) :
    split ([' '].intercalate words) = words := by
  induction words with
  | nil => rfl
  | cons word rest ih =>
      have isWord := each word List.mem_cons_self
      have later := ih fun other member => each other (List.mem_cons_of_mem _ member)
      cases rest with
      | nil => simpa [split] using split_append isWord (show opensWord [] = false from rfl)
      | cons next others =>
          rw [List.intercalate_cons_cons, List.append_assoc, split_append isWord rfl,
            List.singleton_append, split_blank (by decide), later]

end Words

theorem toList_collapse (s : String) :
    (collapse s).toList = [' '].intercalate (Words.split s.toList) := by
  rw [collapse, String.toList_intercalate, words, List.map_map]
  simp [Function.comp_def]

theorem collapse_collapse (s : String) : collapse (collapse s) = collapse s := by
  apply String.toList_injective
  rw [toList_collapse, toList_collapse,
    Words.split_intercalate (Words.split_words s.toList)]

theorem ink_intercalate (words : List (List Char)) :
    ink ([' '].intercalate words) = ink words.flatten := by
  have blank : ink [' '] = 0 := by decide
  induction words with
  | nil => rfl
  | cons word rest ih =>
      cases rest with
      | nil => simp
      | cons next others =>
          rw [List.intercalate_cons_cons, ink_append, ink_append, blank, ih]
          simp

theorem ink_filter (cs : List Char) : ink (cs.filter fun c => !isBlank c) = ink cs := by
  simp [ink, List.countP_filter]

theorem ink_collapse (s : String) : ink (collapse s).toList = ink s.toList := by
  rw [toList_collapse, ink_intercalate, Words.split_flatten, ink_filter]

theorem opens_word {word : List Char} (isWord : IsWord word) : Opens word := by
  cases word with
  | nil => exact absurd rfl isWord.1
  | cons c rest => exact ⟨c, rest, rfl, isWord.2 c List.mem_cons_self⟩

theorem closes_word {word : List Char} (isWord : IsWord word) : Closes word := by
  rcases List.eq_nil_or_concat word with nil | ⟨before, last, rfl⟩
  · exact absurd nil isWord.1
  · rw [List.concat_eq_append] at isWord ⊢
    exact ⟨before, last, rfl, isWord.2 last (by simp)⟩

theorem opens_intercalate {words : List (List Char)} (some : words ≠ [])
    (each : ∀ word ∈ words, IsWord word) : Opens ([' '].intercalate words) := by
  cases words with
  | nil => exact absurd rfl some
  | cons word rest =>
      have isWord := opens_word (each word List.mem_cons_self)
      cases rest with
      | nil => simpa using isWord
      | cons next others =>
          rw [List.intercalate_cons_cons, List.append_assoc]
          exact isWord.append _

theorem closes_intercalate {words : List (List Char)} (some : words ≠ [])
    (each : ∀ word ∈ words, IsWord word) : Closes ([' '].intercalate words) := by
  induction words with
  | nil => exact absurd rfl some
  | cons word rest ih =>
      cases rest with
      | nil => simpa using closes_word (each word List.mem_cons_self)
      | cons next others =>
          rw [List.intercalate_cons_cons]
          exact (ih (by simp) fun other member => each other (List.mem_cons_of_mem _ member)).append _

theorem split_ne_nil {s : String} (some : collapse s ≠ "") : Words.split s.toList ≠ [] := by
  intro nil
  apply some
  apply String.toList_injective
  rw [toList_collapse, nil]
  rfl

theorem opens_collapse {s : String} (some : collapse s ≠ "") : Opens (collapse s).toList := by
  rw [toList_collapse]
  exact opens_intercalate (split_ne_nil some) (Words.split_words _)

theorem closes_collapse {s : String} (some : collapse s ≠ "") : Closes (collapse s).toList := by
  rw [toList_collapse]
  exact closes_intercalate (split_ne_nil some) (Words.split_words _)

theorem collapse_ne_empty {s : String} (some : 0 < ink s.toList) : collapse s ≠ "" := by
  intro none
  have inked := ink_collapse s
  rw [none] at inked
  simp at inked
  omega

end InterfaceMocks.Text
