import InterfaceMocks.Proofs.Written.Lossless

/-!
Cutting a text in which a general comment gives way to a space. Each piece before the comment is cut
as it was, but for white space right before it, which takes in the space; and so does white space
right after it.
-/

namespace InterfaceMocks.Comments

open InterfaceMocks.Syntax InterfaceMocks.Text
open InterfaceMocks.Written (run_append cut_join)
open Lexer

def joined (pieces : List Piece) : List Char := pieces.flatMap fun piece => piece.text.toList

@[simp] theorem joined_nil : joined [] = [] := rfl

@[simp] theorem joined_cons (piece : Piece) (rest : List Piece) :
    joined (piece :: rest) = piece.text.toList ++ joined rest := rfl

@[simp] theorem joined_append (first second : List Piece) :
    joined (first ++ second) = joined first ++ joined second := List.flatMap_append

def textOf (pieces : List Piece) : String := String.ofList (joined pieces)

@[simp] theorem toList_textOf (pieces : List Piece) : (textOf pieces).toList = joined pieces := by
  rw [textOf, String.toList_ofList]

/-! What a piece depends on. -/

/-- How far a scan goes depends only on the characters that it goes over. -/
def Determined (scan : List Char → Option Nat) : Prop :=
  ∀ {cs : List Char} {n : Nat}, scan cs = some n → ∀ next, scan (cs.take n ++ next) = some n

theorem Determined.swap {scan : List Char → Option Nat} (determined : Determined scan)
    {cs next : List Char} {n : Nat} (found : scan (cs ++ next) = some n) (within : n ≤ cs.length)
    (other : List Char) : scan (cs ++ other) = some n := by
  have same := determined found (cs.drop n ++ other)
  rwa [List.take_append_of_le_length within, ← List.append_assoc, List.take_append_drop] at same

theorem closing_pos {cs : List Char} {n : Nat} (found : closing cs = some n) : 0 < n := by
  fun_induction closing cs generalizing n with
  | case1 =>
      obtain rfl := Option.some.inj found
      decide
  | case2 =>
      obtain ⟨m, -, rfl⟩ := Option.map_eq_some_iff.1 found
      exact Nat.succ_pos m
  | case3 => simp at found

theorem closing_determined : Determined closing := by
  intro cs n found next
  fun_induction closing cs generalizing n with
  | case1 rest =>
      obtain rfl := Option.some.inj found
      simp [closing]
  | case2 c rest other ih =>
      obtain ⟨m, later, rfl⟩ := Option.map_eq_some_iff.1 found
      -- the second character is among those that are gone over
      have open' : ∀ more, c = '*' → rest.take m ++ next = '/' :: more → False := by
        intro more star slash
        cases rest with
        | nil => simp [closing] at later
        | cons d rest =>
            obtain ⟨k, rfl⟩ := Nat.exists_eq_succ_of_ne_zero (closing_pos later).ne'
            simp only [Nat.succ_eq_add_one, List.take_succ_cons, List.cons_append,
              List.cons.injEq] at slash
            exact other rest star (by rw [slash.1])
      rw [List.take_succ_cons, List.cons_append, closing, ih later]
      · rfl
      · exact open'
  | case3 => simp at found

theorem rawEnd_determined : Determined rawEnd := by
  intro cs n found next
  induction cs generalizing n with
  | nil => simp [rawEnd] at found
  | cons c rest ih =>
      rw [rawEnd] at found
      split at found
      · rename_i quote
        obtain rfl := Option.some.inj found
        simp [rawEnd, quote]
      · rename_i other
        obtain ⟨m, later, rfl⟩ := Option.map_eq_some_iff.1 found
        simp [rawEnd, other, ih later]

theorem quotedEnd_determined (expect : Expect) : Determined (quotedEnd expect) := by
  intro cs n found next
  fun_induction quotedEnd expect cs generalizing n with
  | case1 => simp at found
  | case2 c rest ih =>
      obtain ⟨m, later, rfl⟩ := Option.map_eq_some_iff.1 found
      simp [quotedEnd, ih later]
  | case3 c rest quote =>
      obtain rfl := Option.some.inj found
      simp [quotedEnd, quote]
  | case4 => simp at found
  | case5 c rest quote line escape ih =>
      obtain ⟨m, later, rfl⟩ := Option.map_eq_some_iff.1 found
      simp [quotedEnd, quote, line, escape, ih later]
  | case6 c rest quote line escape ih =>
      obtain ⟨m, later, rfl⟩ := Option.map_eq_some_iff.1 found
      simp [quotedEnd, quote, line, escape, ih later]
  | case7 more c rest hex ih =>
      obtain ⟨m, later, rfl⟩ := Option.map_eq_some_iff.1 found
      simp [quotedEnd, hex, ih later]
  | case8 => simp at found

theorem runeEnd_determined : Determined runeEnd := by
  intro cs n found next
  unfold runeEnd at found
  split at found
  · rename_i c rest
    obtain ⟨size, counted, ends⟩ := Option.bind_eq_some_iff.1 found
    split at ends
    · rename_i quote
      obtain rfl := Option.some.inj ends
      have last : size < rest.length := by
        by_contra past
        simp [List.getElem?_eq_none (Nat.not_lt.1 past)] at quote
      have taken (k : Nat) (few : k ≤ size) : (rest.take (size + 1) ++ next).take k = rest.take k := by
        rw [List.take_append_of_le_length (by simp; omega), List.take_take]
        congr 1
        omega
      have closes : (rest.take (size + 1) ++ next)[size]? = rest[size]? := by
        rw [List.getElem?_append_left (by simp; omega), List.getElem?_take]
        simp
      have digits : (if 0 < escapeDigits c then
            if ((rest.take (size + 1) ++ next).take (escapeDigits c)).all isHex
            then some (escapeDigits c) else none
          else if isOctal c then
            if ((rest.take (size + 1) ++ next).take 2).all isOctal then some 2 else none
          else if "abfnrtv\\\x27\x22".toList.contains c then some 0
          else none) = some size := by
        by_cases some : 0 < escapeDigits c
        · simp only [some, if_true, Option.ite_none_right_eq_some, Option.some.injEq] at counted ⊢
          rw [taken _ counted.2.le]
          exact counted
        · simp only [some, if_false] at counted ⊢
          by_cases octal : isOctal c = true
          · simp only [octal, if_true, Option.ite_none_right_eq_some, Option.some.injEq]
              at counted ⊢
            rw [taken _ counted.2.le]
            exact counted
          · rw [if_neg octal] at counted ⊢
            exact counted
      simp only [List.take_succ_cons, List.cons_append, runeEnd]
      rw [digits, Option.bind_some, closes, if_pos quote]
    · simp at ends
  · rename_i c rest single
    split at found
    · simp at found
    · rename_i other
      obtain rfl := Option.some.inj found
      have plain : c ≠ '\\' := by
        rintro rfl
        simp at other
      simp only [List.take_succ_cons, List.take_zero, List.cons_append, List.nil_append]
      rw [runeEnd]
      · rw [if_neg other]
      · exact plain
  · simp at found

theorem run_determined {p : Char → Bool} {cs next : List Char}
    (within : run p (cs ++ next) < cs.length) (other : List Char) :
    run p (cs ++ other) = run p (cs ++ next) := by
  induction cs with
  | nil => simp at within
  | cons c rest ih =>
      by_cases holds : p c = true
      · have later : run p (rest ++ next) < rest.length := by
          simpa [run, holds] using within
        simpa [run, holds] using ih later
      · simp [run, holds]

theorem run_lt {p : Char → Bool} {cs : List Char} (some : ¬ cs.all p = true) (next : List Char) :
    run p (cs ++ next) < cs.length := by
  induction cs with
  | nil => simp at some
  | cons c rest ih =>
      by_cases holds : p c = true
      · have later : ¬ rest.all p = true := by simpa [holds] using some
        simpa [run, holds] using ih later
      · simp [run, holds]

theorem run_short {p : Char → Bool} {cs next : List Char} {c : Char} (holds : p c = true)
    (within : run p (cs ++ c :: next) ≤ cs.length) : run p (cs ++ c :: next) < cs.length := by
  refine run_lt (fun all => ?_) _
  have longer : run p (cs ++ c :: next) = cs.length + 1 + run p next := by
    rw [run, List.takeWhile_append_of_pos (List.all_eq_true.1 all)]
    simp [holds, run]
    omega
  omega

/-! Characters that end every piece. -/

theorem run_stop {p : Char → Bool} {cs : List Char} {c d : Char} (first : p c = false)
    (second : p d = false) (next other : List Char) :
    run p (cs ++ c :: next) = run p (cs ++ d :: other) := by
  induction cs with
  | nil => simp [run, first, second]
  | cons e rest ih =>
      by_cases holds : p e = true
      · simpa [run, holds] using ih
      · simp [run, holds]

/-- A prefix without the character `c`, its first place apart, ends before it. -/
theorem prefix_stop {mark cs next : List Char} {c : Char} (some : cs ≠ []) (absent : c ∉ mark.tail) :
    mark.isPrefixOf (cs ++ c :: next) = mark.isPrefixOf cs := by
  have bare : ∀ {mark cs : List Char}, c ∉ mark →
      mark.isPrefixOf (cs ++ c :: next) = mark.isPrefixOf cs := by
    intro mark cs absent
    induction mark generalizing cs with
    | nil => simp
    | cons d rest ih =>
        simp only [List.mem_cons, not_or] at absent
        cases cs with
        | nil => simp [List.isPrefixOf, Ne.symm absent.1]
        | cons e cs => simp only [List.cons_append, List.isPrefixOf, ih absent.2]
  cases mark with
  | nil => simp
  | cons d rest =>
      cases cs with
      | nil => exact absurd rfl some
      | cons e cs =>
          rw [List.tail_cons] at absent
          simp only [List.cons_append, List.isPrefixOf, bare absent]

theorem find_congr {α : Type} {p q : α → Bool} {xs : List α} (same : ∀ x ∈ xs, p x = q x) :
    xs.find? p = xs.find? q := by
  induction xs with
  | nil => rfl
  | cons x rest ih =>
      rw [List.find?_cons, List.find?_cons, same x List.mem_cons_self,
        ih fun other member => same other (List.mem_cons_of_mem _ member)]

theorem markExtent_stop {cs : List Char} {c : Char} (some : cs ≠ [])
    (absent : ∀ mark ∈ marks, c ∉ mark.toList.tail) (next : List Char) :
    markExtent (cs ++ c :: next) = markExtent cs := by
  unfold markExtent
  congr 1
  refine find_congr fun mark listed => ?_
  exact prefix_stop some (absent mark listed)

theorem numberExtent_stop {cs : List Char} {c : Char} (int : Number.int.avoids c = true)
    (float : Number.float.avoids c = true) (imaginary : Number.imaginary.avoids c = true)
    (next : List Char) : numberExtent (cs ++ c :: next) = numberExtent cs := by
  unfold numberExtent
  rw [Pattern.longest_append int, Pattern.longest_append float, Pattern.longest_append imaginary]

/-- A character that no word, number or mark has, a mark's first place apart. -/
structure Stops (c : Char) : Prop where
  word : Identifier.continues c = false
  digit : c.isDigit = false
  int : Number.int.avoids c = true
  float : Number.float.avoids c = true
  imaginary : Number.imaginary.avoids c = true
  mark : ∀ mark ∈ marks, c ∉ mark.toList.tail

theorem slash_stops : Stops '/' :=
  ⟨by decide +kernel, by decide, by decide +kernel, by decide +kernel, by decide +kernel,
    by decide +kernel⟩

theorem space_stops : Stops ' ' :=
  ⟨by decide +kernel, by decide, by decide +kernel, by decide +kernel, by decide +kernel,
    by decide +kernel⟩

theorem closing_append {inner : List Char} (closed : closing inner ≠ none) (cs : List Char) :
    closing (cs ++ inner) ≠ none := by
  induction cs with
  | nil => exact closed
  | cons c rest ih =>
      rw [List.cons_append]
      unfold closing
      split
      · simp
      · rename_i same
        obtain ⟨-, rfl⟩ := List.cons.inj same
        simpa using ih
      · rename_i none
        simp at none

theorem startsComment_swap {c : Char} {cs inner next : List Char} (closed : closing inner ≠ none)
    (starts : StartsComment c (cs ++ ' ' :: next)) : StartsComment c (cs ++ '/' :: '*' :: inner) := by
  obtain ⟨rfl, more, same⟩ := starts
  cases cs with
  | nil => simp at same
  | cons d rest =>
      refine ⟨rfl, rest ++ '/' :: '*' :: inner, ?_⟩
      rcases same with line | ⟨general, -⟩
      · obtain ⟨rfl, -⟩ := List.cons.inj line
        exact .inl rfl
      · obtain ⟨rfl, -⟩ := List.cons.inj general
        refine .inr ⟨rfl, ?_⟩
        simpa using closing_append closed (rest ++ ['/', '*'])

/-- A piece that ends before a comment is cut the same way where a space stands for the comment. White
space right before it is the exception. -/
theorem cuts_swap {c : Char} {cs inner : List Char} {sort : PieceClass} {n : Nat}
    (closed : closing inner ≠ none) (cuts : Cuts c (cs ++ '/' :: '*' :: inner) sort n)
    (within : n ≤ cs.length) (next : List Char) :
    Cuts c (cs ++ ' ' :: next) sort n
      ∨ (sort = .blank ∧ n = cs.length ∧ isSpace c = true ∧ cs.all isSpace = true) := by
  have digits : isDigitNext (cs ++ ' ' :: next) = isDigitNext (cs ++ '/' :: '*' :: inner) := by
    cases cs with
    | nil => rfl
    | cons d rest => rfl
  generalize whole : cs ++ '/' :: '*' :: inner = text at cuts
  cases cuts with
  | blank space =>
      subst whole
      by_cases all : cs.all isSpace = true
      · exact .inr ⟨rfl, run_append all (by rintro d ⟨⟩; decide), space, all⟩
      · rw [← run_determined (run_lt all _) (' ' :: next)]
        exact .inl (.blank space)
  | word solid opens =>
      subst whole
      rw [← run_stop space_stops.word slash_stops.word next]
      exact .inl (.word solid opens)
  | number solid apart starts numeric found =>
      subst whole
      rw [← List.cons_append,
        numberExtent_stop slash_stops.int slash_stops.float slash_stops.imaginary] at found
      refine .inl (.number solid apart (by rwa [digits]) numeric ?_)
      rwa [← List.cons_append,
        numberExtent_stop space_stops.int space_stops.float space_stops.imaginary]
  | line more =>
      cases cs with
      | nil =>
          obtain ⟨-, rfl⟩ := List.cons.inj whole
          simp [run] at within
      | cons d rest =>
          obtain ⟨rfl, rfl⟩ := List.cons.inj whole
          rw [← whole] at within ⊢
          rw [← run_determined (run_short (by decide) within) (' ' :: next)]
          exact .inl (.line _)
  | general closes =>
      cases cs with
      | nil => simp at whole
      | cons d rest =>
          obtain ⟨rfl, rfl⟩ := List.cons.inj whole
          exact .inl (.general (closing_determined.swap closes (by simpa using within) _))
  | quoted ends =>
      subst whole
      exact .inl (.quoted (Determined.swap (quotedEnd_determined _) ends within _))
  | raw ends =>
      subst whole
      exact .inl (.raw (rawEnd_determined.swap ends within _))
  | rune ends =>
      subst whole
      exact .inl (.rune (runeEnd_determined.swap ends within _))
  | mark plain unquoted open' found =>
      subst whole
      rw [← List.cons_append, markExtent_stop (by simp) slash_stops.mark] at found
      refine .inl (.mark ⟨plain.space, plain.word, by rw [digits]; exact plain.number⟩ unquoted ?_ ?_)
      · exact fun starts => open' (startsComment_swap closed starts)
      · rwa [← List.cons_append, markExtent_stop (by simp) space_stops.mark]

/-! Texts. -/

theorem cut_cons {cs : List Char} {piece : Piece} {rest : List Piece}
    (found : cut cs = some (piece :: rest)) :
    ∃ c more n, piece.text.toList = c :: more ∧ cs = c :: (more ++ joined rest)
      ∧ extent c (more ++ joined rest) = some (piece.sort, n)
      ∧ more = (more ++ joined rest).take n ∧ (rest ≠ [] → n = more.length)
      ∧ cut (joined rest) = some rest := by
  cases cs with
  | nil => simp [Lexer.cut] at found
  | cons c others =>
      rw [Lexer.cut] at found
      split at found
      · simp at found
      · rename_i sort n here
        obtain ⟨later, cuts, same⟩ := Option.map_eq_some_iff.1 found
        obtain ⟨rfl, rfl⟩ := List.cons.inj same
        have drops : joined later = others.drop n := cut_join cuts
        have whole : others.take n ++ joined later = others := by
          rw [drops, List.take_append_drop]
        refine ⟨c, others.take n, n, by simp, by rw [whole], by rw [whole]; exact here,
          by rw [whole], fun some => ?_, by rwa [drops]⟩
        -- what is left to cut is not empty
        have within : n < others.length := by
          by_contra past
          rw [List.drop_eq_nil_of_le (Nat.not_lt.1 past), Lexer.cut] at cuts
          exact some (Option.some.inj cuts).symm
        simp [Nat.min_eq_left within.le]

theorem cut_blank {space : List Char} (some : space ≠ []) (blank : space.all isSpace = true)
    {next : List Char} (stops : ∀ c ∈ next.head?, isSpace c = false) :
    cut (space ++ next) = (cut next).map (⟨.blank, String.ofList space⟩ :: ·) := by
  obtain ⟨c, others, rfl⟩ := List.exists_cons_of_ne_nil some
  rw [List.all_cons, Bool.and_eq_true] at blank
  rw [List.cons_append, Lexer.cut]
  simp [extent, blank.1, run_append blank.2 stops]

theorem extent_blank {c : Char} {rest : List Char} {n : Nat} {sort : PieceClass}
    (found : extent c rest = some (sort, n)) (space : isSpace c = true) :
    sort = .blank ∧ rest.take n = rest.takeWhile isSpace := by
  unfold extent at found
  rw [if_pos space, Option.some.injEq, Prod.mk.injEq] at found
  obtain ⟨rfl, rfl⟩ := found
  exact ⟨rfl, Grammar.take_run isSpace rest⟩

/-- White space takes in the white space that comes after it. -/
theorem cut_merge {space : List Char} (some : space ≠ []) (blank : space.all isSpace = true)
    {pieces : List Piece} (found : cut (joined pieces) = .some pieces) :
    ∃ right rest, pieces = right ++ rest ∧ (∀ piece ∈ right, piece.sort = .blank)
      ∧ cut (space ++ joined pieces) =
        .some (⟨.blank, String.ofList (space ++ joined right)⟩ :: rest) := by
  cases pieces with
  | nil =>
      refine ⟨[], [], rfl, by simp, ?_⟩
      rw [cut_blank some blank (by simp)]
      simp [Lexer.cut]
  | cons piece rest =>
      obtain ⟨c, more, n, text, whole, here, taken, -, later⟩ := cut_cons found
      by_cases space' : isSpace c = true
      · obtain ⟨sort, run⟩ := extent_blank here space'
        refine ⟨[piece], rest, rfl, by simpa using sort, ?_⟩
        have spaces : more.all isSpace = true := by
          rw [taken, run]
          exact List.all_takeWhile
        -- the white space ends where the piece ends
        have stops : ∀ d ∈ (joined rest).head?, isSpace d = false := by
          intro d first
          obtain ⟨others, same⟩ := List.head?_eq_some_iff.1 first
          rw [← taken, same, List.takeWhile_append_of_pos (List.all_eq_true.1 spaces)] at run
          have none : (d :: others).takeWhile isSpace = [] := by simpa using run.symm
          by_contra holds
          rw [Bool.not_eq_false] at holds
          simp [holds] at none
        have merged : (space ++ c :: more).all isSpace = true := by
          simp [List.all_append, blank, space', spaces]
        have split : space ++ joined (piece :: rest) = (space ++ c :: more) ++ joined rest := by
          rw [whole]
          simp
        rw [split, cut_blank (by simp) merged stops, later]
        simp [text]
      · refine ⟨[], piece :: rest, rfl, by simp, ?_⟩
        rw [cut_blank some blank (by rw [whole]; rintro d ⟨⟩; simpa using space'), found]
        simp

theorem closing_of_cut {cs inner : List Char} {before after : List Piece} {text : String}
    (found : cut cs = some (before ++ ⟨.comment, text⟩ :: after))
    (opens : text.toList = '/' :: '*' :: inner) : closing (inner ++ joined after) ≠ none := by
  induction before generalizing cs with
  | nil =>
      obtain ⟨c, more, n, chars, -, here, -⟩ := cut_cons found
      obtain ⟨rfl, rfl⟩ := List.cons.inj (chars.symm.trans opens)
      intro none
      have slash : isSpace '/' = false ∧ Identifier.opens '/' = false := by decide +kernel
      simp [extent, slash.1, slash.2, none, markExtent] at here
  | cons piece before ih =>
      obtain ⟨-, -, -, -, -, -, -, -, later⟩ := cut_cons found
      exact ih later

/-- The pieces of a text in which a space stands for a general comment: the white space on both sides
of the comment is one piece, and the others are as they were. -/
theorem cut_swap {cs inner : List Char} {before after : List Piece} {text : String}
    (found : cut cs = some (before ++ ⟨.comment, text⟩ :: after))
    (opens : text.toList = '/' :: '*' :: inner) :
    ∃ front left right rest, before = front ++ left ∧ after = right ++ rest
      ∧ (∀ piece ∈ left ++ right, piece.sort = .blank)
      ∧ cut (joined (before ++ ⟨.blank, " "⟩ :: after)) =
        some (front ++ ⟨.blank, textOf (left ++ ⟨.blank, " "⟩ :: right)⟩ :: rest) := by
  have spaced (left right : List Piece) :
      joined (left ++ ⟨.blank, " "⟩ :: right) = joined left ++ ' ' :: joined right := by simp
  have closed := closing_of_cut found opens
  induction before generalizing cs with
  | nil =>
      obtain ⟨-, -, -, -, -, -, -, -, later⟩ := cut_cons found
      have single : [' '].all isSpace = true := by decide
      obtain ⟨right, rest, split, blank, merged⟩ := cut_merge (by simp) single later
      refine ⟨[], [], right, rest, rfl, split, by simpa using blank, ?_⟩
      rw [textOf, spaced, spaced]
      exact merged
  | cons piece before ih =>
      rw [List.cons_append] at found
      obtain ⟨c, more, n, chars, -, here, -, size, later⟩ := cut_cons found
      obtain rfl := size (by simp)
      have start : more ++ joined (before ++ ⟨.comment, text⟩ :: after) =
          (more ++ joined before) ++ '/' :: '*' :: (inner ++ joined after) := by
        simp [opens]
      rw [start] at here
      rcases cuts_swap closed (cuts_of_extent here) (by simp) (joined after) with
        same | ⟨sort, whole, space, spaces⟩
      · have same := extent_of_cuts same
        obtain ⟨front, left, right, rest, rfl, split, blank, merged⟩ := ih later
        refine ⟨piece :: front, left, right, rest, rfl, split, blank, ?_⟩
        have text : String.ofList (c :: more) = piece.text := by rw [← chars, String.ofList_toList]
        rw [List.append_assoc] at same
        rw [spaced] at merged ⊢
        rw [joined_cons, chars, List.append_assoc, List.cons_append, Lexer.cut, same]
        simp only [List.drop_left, merged, List.take_left, text, Option.map_some,
          List.cons_append]
      · -- nothing stands between the white space and the comment
        obtain rfl : before = [] := by
          cases before with
          | nil => rfl
          | cons other rest =>
              obtain ⟨d, others, -, text, -⟩ := cut_cons later
              simp [text] at whole
        obtain ⟨-, -, -, -, -, -, -, -, last⟩ := cut_cons later
        have single : (c :: more ++ [' ']).all isSpace = true := by
          rw [joined_nil, List.append_nil] at spaces
          have last : isSpace ' ' = true := by decide
          simp [space, last, List.all_append, spaces]
        obtain ⟨right, rest, split, blank, merged⟩ := cut_merge (by simp) single last
        refine ⟨[], [piece], right, rest, rfl, split, by simpa [sort] using blank, ?_⟩
        rw [textOf, spaced, spaced, List.nil_append]
        simpa only [joined_cons, joined_nil, List.append_nil, chars, List.append_assoc,
          List.singleton_append] using merged

end InterfaceMocks.Comments
