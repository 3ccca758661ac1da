import InterfaceMocks.Proofs.Text.Replacement

/-!
Swapping the text of unrecognised types for a placeholder, and back. The placeholder begins and ends
with an underscore. Where the source has all of it but the last underscore right before such a text,
the swap completes it there, and swapping back starts at the wrong place. Nothing else goes wrong:
everywhere else two occurrences keep apart, or overlap where the first of them is already taken.
-/

namespace InterfaceMocks.Text.Replace

/-- No occurrence of the pattern starts in `part`, where `rest` follows it. -/
def Startless (pattern part rest : List Char) : Prop :=
  ∀ first second, part = first ++ second → second ≠ [] → ¬ pattern <+: second ++ rest

variable {pattern : List Char}

/-- The text up to the first occurrence, and after it. -/
theorem first_occurrence {text : List Char} (found : pattern <:+: text) :
    ∃ part rest, text = part ++ (pattern ++ rest) ∧ Startless pattern part (pattern ++ rest) := by
  induction text with
  | nil =>
      obtain rfl := List.infix_nil.1 found
      refine ⟨[], [], rfl, fun first second split some => ?_⟩
      exact absurd (List.append_eq_nil_iff.1 split.symm).2 some
  | cons c text ih =>
      by_cases here : pattern <+: c :: text
      · obtain ⟨rest, same⟩ := here
        refine ⟨[], rest, same.symm, fun first second split some => ?_⟩
        exact absurd (List.append_eq_nil_iff.1 split.symm).2 some
      · obtain ⟨part, rest, rfl, startless⟩ := ih ((List.infix_cons_iff.1 found).resolve_left here)
        refine ⟨c :: part, rest, rfl, fun first second split some => ?_⟩
        cases first with
        | nil =>
            obtain rfl : c :: part = second := split
            exact here
        | cons d first => exact startless first second (List.cons.inj split).2 some

/-- A pattern whose first character stands nowhere else in it does not overlap itself. -/
theorem no_overlap {c : Char} {body rest before after : List Char} (single : c ∉ body)
    (same : c :: body ++ rest = before ++ (c :: body ++ after)) (some : before ≠ []) :
    ∃ more, before = c :: body ++ more ∧ rest = more ++ (c :: body ++ after) := by
  rcases List.append_eq_append_iff.1 same with ⟨more, start, later⟩ | ⟨more, inside, later⟩
  · exact ⟨more, start, later⟩
  · cases more with
    | nil => exact ⟨[], by simpa using inside.symm, by simpa using later.symm⟩
    | cons d more =>
        -- the second occurrence would start inside the first one, with its first character
        obtain ⟨e, before, rfl⟩ := List.exists_cons_of_ne_nil some
        obtain ⟨rfl, -⟩ := List.cons.inj later
        obtain ⟨-, rest⟩ := List.cons.inj inside
        exact absurd (rest ▸ by simp) single

/-- A pattern whose first character stands at its end too, and nowhere else in it, overlaps itself in
this character only: where it occurs across a later occurrence, all but its end stands before that. -/
theorem overlap_edge {c : Char} {core second rest : List Char} (single : c ∉ core)
    (starts : c :: core ++ [c] <+: second ++ (c :: core ++ [c] ++ rest)) (some : second ≠ [])
    (absent : ¬ c :: core ++ [c] <:+: second) : second = c :: core := by
  obtain ⟨tail, same⟩ := starts
  rcases List.append_eq_append_iff.1 same with ⟨more, whole, -⟩ | ⟨more, whole, later⟩
  · exact absurd (whole ▸ (List.prefix_append _ _).isInfix) absent
  · obtain ⟨d, second, rfl⟩ := List.exists_cons_of_ne_nil some
    cases more with
    | nil =>
        rw [List.append_nil] at whole
        exact absurd (whole ▸ List.infix_rfl) absent
    | cons e more =>
        obtain ⟨rfl, inside⟩ := List.cons.inj whole
        obtain ⟨rfl, -⟩ := List.cons.inj later
        rcases List.eq_nil_or_concat more with rfl | ⟨more, f, rfl⟩
        · rw [List.append_cancel_right inside]
        · have split : core ++ [c] = (second ++ c :: more) ++ [f] := by simpa using inside
          exact absurd ((List.append_inj' split rfl).1 ▸ by simp) single

/-- Where the stem and a pattern stand behind the first occurrence of the pattern, the stem stands
behind it too, as it does not have the character at the end of the pattern. -/
theorem infix_after {c d : Char} {body stem part rest : List Char} (single : c ∉ body)
    (ends : (c :: body).getLast? = some d) (free : d ∉ stem)
    (startless : Startless (c :: body) part (c :: body ++ rest))
    (found : stem ++ (c :: body) <:+: part ++ (c :: body ++ rest)) :
    stem <:+ part ∨ stem ++ (c :: body) <:+: rest := by
  obtain ⟨before, after, same⟩ := found
  have split : (before ++ stem) ++ (c :: body ++ after) = part ++ (c :: body ++ rest) := by
    simpa only [List.append_assoc] using same
  rcases List.append_eq_append_iff.1 split with ⟨more, inside, later⟩ | ⟨more, beyond, later⟩
  · by_cases none : more = []
    · exact .inl ⟨before, by simpa [none] using inside.symm⟩
    · exact absurd ⟨after, later⟩ (startless _ _ inside none)
  · by_cases none : more = []
    · exact .inl ⟨before, by simpa [none] using beyond⟩
    · obtain ⟨gap, rfl, rfl⟩ := no_overlap single later none
      rw [← List.append_assoc] at beyond
      rcases List.append_eq_append_iff.1 beyond with ⟨tail, whole, split⟩ | ⟨tail, -, split⟩
      · rcases List.eq_nil_or_concat tail with rfl | ⟨tail, e, rfl⟩
        · exact .inr ⟨[], after, by simp [split]⟩
        · have last : (part ++ c :: body).getLast? = some e := by
            rw [whole, List.concat_eq_append, ← List.append_assoc, List.getLast?_concat]
          rw [List.getLast?_append_of_ne_nil _ (List.cons_ne_nil c body), ends] at last
          obtain rfl : d = e := Option.some.inj last
          exact absurd (split ▸ by simp) free
      · exact .inr ⟨tail, after, by simp [split]⟩

section Swap

variable {c d e : Char} {body core : List Char}

/-- No occurrence of the key starts before one that was put in, unless all but its end stands right
before that. -/
theorem replaceFrom_put (edges : e ∉ core) {part : List Char} (absent : ¬ e :: core ++ [e] <:+: part)
    (other : ¬ e :: core <:+ part) (rest : List Char) :
    replaceFrom (e :: core ++ [e]) (c :: body) 0 (part ++ (e :: core ++ [e] ++ rest)) =
      part ++ (c :: body ++ replaceFrom (e :: core ++ [e]) (c :: body) 0 rest) := by
  rw [replaceFrom_append, replaceFrom_pattern (by simp)]
  rintro first second rfl some starts
  have inside : second <:+: first ++ second := (List.suffix_append _ _).isInfix
  have whole := overlap_edge edges starts some fun found => absent (found.trans inside)
  exact other (whole ▸ List.suffix_append _ _)

/-- Where all but its end stands right before one that was put in, the key is found too early. -/
theorem replaceFrom_early (edges : e ∉ core) {part : List Char}
    (absent : ¬ e :: core ++ [e] <:+: part ++ e :: core) (rest : List Char) :
    replaceFrom (e :: core ++ [e]) (c :: body) 0 (part ++ e :: core ++ (e :: core ++ [e] ++ rest)) =
      part ++ (c :: body
        ++ replaceFrom (e :: core ++ [e]) (c :: body) 0 (core ++ [e] ++ rest)) := by
  have early : e :: core ++ (e :: core ++ [e] ++ rest) =
      e :: core ++ [e] ++ (core ++ [e] ++ rest) := by simp
  rw [List.append_assoc part, replaceFrom_append, early, replaceFrom_pattern (by simp)]
  rintro first second rfl some starts
  have inside : second ++ e :: core <:+: first ++ second ++ e :: core :=
    ⟨first, [], by simp⟩
  rw [← List.append_assoc] at starts
  have whole := overlap_edge edges starts (by simp [some]) fun found => absent (found.trans inside)
  exact some (by simpa using whole)

/-- Putting a key in for a marker and then the marker for the key gives the text back exactly if
nowhere in the text all but the end of the key stands before a marker. -/
theorem replace_back_iff (single : c ∉ body) (ends : (c :: body).getLast? = some d)
    (edges : e ∉ core) (free : d ∉ e :: core) (apart : c ≠ e) {text : List Char}
    (absent : ¬ e :: core ++ [e] <:+: text) :
    replaceFrom (e :: core ++ [e]) (c :: body) 0
        (replaceFrom (c :: body) (e :: core ++ [e]) 0 text) = text ↔
      ¬ e :: core ++ (c :: body) <:+: text := by
  -- by induction on what follows the first marker
  induction size : text.length using Nat.strongRecOn generalizing text with
  | ind length ih =>
      by_cases found : c :: body <:+: text
      · obtain ⟨part, rest, rfl, startless⟩ := first_occurrence found
        have within : part <:+: part ++ (c :: body ++ rest) := (List.prefix_append _ _).isInfix
        have behind : rest <:+: part ++ (c :: body ++ rest) := ⟨part ++ c :: body, [], by simp⟩
        have missing : ¬ e :: core ++ [e] <:+: part := fun inside => absent (inside.trans within)
        rw [replaceFrom_append startless, replaceFrom_pattern (List.cons_ne_nil c body)]
        by_cases edge : e :: core <:+ part
        · obtain ⟨part, rfl⟩ := edge
          rw [replaceFrom_early edges missing, List.append_assoc part, List.append_cancel_left_eq]
          refine iff_of_false (fun same => apart (List.cons.inj same).1) fun none => none ?_
          exact ⟨part, rest, by simp⟩
        · have later := ih rest.length (by simp [← size]; omega)
            (fun inside => absent (inside.trans behind)) rfl
          rw [replaceFrom_put edges missing edge, List.append_cancel_left_eq,
            List.append_cancel_left_eq, later]
          refine not_congr ⟨fun inside => inside.trans behind, fun inside => ?_⟩
          exact (infix_after single ends free startless inside).resolve_left edge
      · have none : occurs (c :: body) text = false := by
          rw [← Bool.not_eq_true, occurs_iff]
          exact found
        have none' : occurs (e :: core ++ [e]) text = false := by
          rw [← Bool.not_eq_true, occurs_iff]
          exact absent
        rw [replaceFrom_of_absent none, replaceFrom_of_absent none']
        exact iff_of_true rfl fun inside => found ((List.suffix_append _ _).isInfix.trans inside)

end Swap

end InterfaceMocks.Text.Replace

namespace InterfaceMocks.Placeholder

open InterfaceMocks.Text

/-- A candidate has an underscore at each end and none between them. -/
theorem candidate_edges (n : Nat) :
    ∃ core, (candidate n).toList = '_' :: core ++ ['_'] ∧ '_' ∉ core := by
  cases n with
  | zero => exact ⟨"unrecognised".toList, by simp [candidate, preferred], by simp⟩
  | succ n =>
      refine ⟨"unrecog".toList ++ (fiveDigits n).toList, by simp [candidate, numbered],
        fun member => ?_⟩
      rcases List.mem_append.1 member with letter | digit
      · simp at letter
      · exact absurd (fiveDigits_isDigit digit) (by decide)

/-- The text of an unrecognised type has its first character nowhere else. -/
theorem unrecognised_edges : ∃ body, TypeExpr.unrecognisedText.toList = '<' :: body
    ∧ '<' ∉ body ∧ ('<' :: body).getLast? = some '>' :=
  ⟨"unrecognised>".toList, by simp [TypeExpr.unrecognisedText], by simp, by simp⟩

/-- The swap of a source is undone exactly if the source nowhere has the placeholder, less its last
underscore, right before the text of an unrecognised type. -/
theorem restore_protect_iff (source : String) :
    ∃ stem, choose source = stem ++ "_"
      ∧ (restore (choose source) (protect (choose source) source) = source ↔
        contains source (stem ++ TypeExpr.unrecognisedText) = false) := by
  obtain ⟨n, chosen, free⟩ := choose_fresh source
  obtain ⟨core, spelled, edges⟩ := candidate_edges n
  obtain ⟨body, marker, single, ends⟩ := unrecognised_edges
  have absent : ¬ '_' :: core ++ ['_'] <:+: source.toList := by
    rw [← spelled, ← Replace.occurs_iff, Bool.not_eq_true]
    exact free
  have closing : '>' ∉ '_' :: core := by
    intro member
    have plain := candidate_plain (n := n) (c := '>') (spelled ▸ List.mem_append_left _ member)
    exact absurd plain (by simp [isPlain])
  have back := Replace.replace_back_iff single ends edges closing (by decide) absent
  refine ⟨String.ofList ('_' :: core), ?_, ?_⟩
  · apply String.toList_injective
    rw [chosen, spelled]
    simp
  · rw [chosen, ← String.toList_inj, ← Bool.not_eq_true]
    simp only [restore, protect, replaceAll, contains, String.toList_ofList, String.toList_append,
      spelled, marker, back, Replace.occurs_iff]

example : restore preferred (protect preferred "_unrecognised<unrecognised>") =
    "<unrecognised>unrecognised_" := by
  decide

end InterfaceMocks.Placeholder
