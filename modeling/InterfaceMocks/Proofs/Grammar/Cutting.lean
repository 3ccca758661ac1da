import InterfaceMocks.Syntax.Lexer

/-!
How a text is cut into pieces. `Cuts` has a case for each kind of piece, and says of each what the
text has to start with and how far the piece goes. What holds of every piece by its kind holds of the
pieces of a text, and so of its tokens and of the comments between them.
-/

namespace InterfaceMocks.Syntax.Lexer

open InterfaceMocks.Text

def IsNumeric (lexeme : Lexeme) : Prop :=
  lexeme = .int ∨ lexeme = .float ∨ lexeme = .imaginary

theorem longer_class (first second : Lexeme × Option Nat) :
    (longer first second).1 = first.1 ∨ (longer first second).1 = second.1 := by
  unfold longer
  split
  · split
    · exact .inr rfl
    · exact .inl rfl
  · exact .inr rfl
  · exact .inl rfl

theorem numberExtent_class {cs : List Char} {sort : PieceClass} {n : Nat}
    (found : numberExtent cs = some (sort, n)) :
    ∃ lexeme, sort = .lexeme lexeme ∧ IsNumeric lexeme := by
  obtain ⟨size, -, rest⟩ := Option.bind_eq_some_iff.1 found
  split at rest
  · simp at rest
  · simp only [Option.some.injEq, Prod.mk.injEq] at rest
    refine ⟨_, rest.1.symm, ?_⟩
    rcases longer_class (longer (.int, Number.int.longest cs) (.float, Number.float.longest cs))
      (.imaginary, Number.imaginary.longest cs) with inner | outer
    · rw [inner]
      rcases longer_class (.int, Number.int.longest cs) (.float, Number.float.longest cs)
        with int | float
      · exact .inl int
      · exact .inr (.inl float)
    · exact .inr (.inr outer)

theorem markExtent_class {cs : List Char} {sort : PieceClass} {n : Nat}
    (found : markExtent cs = some (sort, n)) : sort = .lexeme .mark := by
  obtain ⟨mark, -, same⟩ := Option.map_eq_some_iff.1 found
  exact (Prod.mk.inj same).1.symm

/-- Neither white space, a word nor a number starts with `c`. -/
structure Plain (c : Char) (rest : List Char) : Prop where
  space : isSpace c = false
  word : Identifier.opens c = false
  number : (c.isDigit || (c == '.' && isDigitNext rest)) = false

/-- Neither white space nor a word starts with a slash or a quote. -/
theorem solid_apart : ∀ c ∈ ['/', '\x22', '\x60', '\x27'],
    isSpace c = false ∧ Identifier.opens c = false := by
  have checked : (['/', '\x22', '\x60', '\x27'].all fun c =>
      !isSpace c && !Identifier.opens c) = true := by decide +kernel
  intro c among
  simpa using List.all_eq_true.1 checked c among

/-- Whether a comment starts with `c`: one to the end of the line, or a general one that is closed. -/
def StartsComment (c : Char) (rest : List Char) : Prop :=
  c = '/' ∧ ∃ more, rest = '/' :: more ∨ (rest = '*' :: more ∧ closing more ≠ none)

inductive Cuts : Char → List Char → PieceClass → Nat → Prop
  | blank {c : Char} {rest : List Char} (space : isSpace c = true) :
      Cuts c rest .blank (run isSpace rest)
  | word {c : Char} {rest : List Char} (solid : isSpace c = false)
      (opens : Identifier.opens c = true) :
      Cuts c rest (.lexeme .word) (run Identifier.continues rest)
  | number {c : Char} {rest : List Char} {lexeme : Lexeme} {n : Nat} (solid : isSpace c = false)
      (apart : Identifier.opens c = false)
      (starts : (c.isDigit || (c == '.' && isDigitNext rest)) = true) (numeric : IsNumeric lexeme)
      (found : numberExtent (c :: rest) = some (.lexeme lexeme, n)) :
      Cuts c rest (.lexeme lexeme) n
  | line (more : List Char) : Cuts '/' ('/' :: more) .comment (run (· != '\n') ('/' :: more))
  | general {more : List Char} {n : Nat} (found : closing more = some n) :
      Cuts '/' ('*' :: more) .comment (n + 1)
  | quoted {rest : List Char} {n : Nat} (found : quotedEnd (.digits 0) rest = some n) :
      Cuts '\x22' rest (.lexeme .quoted) n
  | raw {rest : List Char} {n : Nat} (found : rawEnd rest = some n) :
      Cuts '\x60' rest (.lexeme .raw) n
  | rune {rest : List Char} {n : Nat} (found : runeEnd rest = some n) :
      Cuts '\x27' rest (.lexeme .rune) n
  | mark {c : Char} {rest : List Char} {n : Nat} (plain : Plain c rest)
      (unquoted : c ≠ '\x22' ∧ c ≠ '\x60' ∧ c ≠ '\x27') (open' : ¬ StartsComment c rest)
      (found : markExtent (c :: rest) = some (.lexeme .mark, n)) : Cuts c rest (.lexeme .mark) n

theorem cuts_of_extent {c : Char} {rest : List Char} {sort : PieceClass} {n : Nat}
    (found : extent c rest = some (sort, n)) : Cuts c rest sort n := by
  unfold extent at found
  split at found
  · rename_i space
    obtain ⟨rfl, rfl⟩ := Prod.mk.inj (Option.some.inj found)
    exact .blank space
  rename_i solid
  split at found
  · rename_i opens
    obtain ⟨rfl, rfl⟩ := Prod.mk.inj (Option.some.inj found)
    exact .word (by simpa using solid) opens
  rename_i apart
  split at found
  · rename_i starts
    obtain ⟨lexeme, rfl, numeric⟩ := numberExtent_class found
    exact .number (by simpa using solid) (by simpa using apart) starts numeric found
  rename_i other
  have plain : Plain c rest :=
    ⟨by simpa using solid, by simpa using apart, Bool.eq_false_iff.2 other⟩
  split at found
  · obtain ⟨rfl, rfl⟩ := Prod.mk.inj (Option.some.inj found)
    exact .line _
  · rename_i more
    split at found
    · rename_i size closes
      obtain ⟨rfl, rfl⟩ := Prod.mk.inj (Option.some.inj found)
      exact .general closes
    · rename_i unclosed
      obtain rfl := markExtent_class found
      refine .mark plain (by decide) ?_ found
      rintro ⟨-, other, line | ⟨same, closed⟩⟩
      · simp at line
      · obtain ⟨-, rfl⟩ := List.cons.inj same
        exact closed unclosed
  · obtain ⟨size, ends, same⟩ := Option.map_eq_some_iff.1 found
    obtain ⟨rfl, rfl⟩ := Prod.mk.inj same
    exact .quoted ends
  · obtain ⟨size, ends, same⟩ := Option.map_eq_some_iff.1 found
    obtain ⟨rfl, rfl⟩ := Prod.mk.inj same
    exact .raw ends
  · obtain ⟨size, ends, same⟩ := Option.map_eq_some_iff.1 found
    obtain ⟨rfl, rfl⟩ := Prod.mk.inj same
    exact .rune ends
  · rename_i quoted raw rune line general
    obtain rfl := markExtent_class found
    refine .mark plain ⟨quoted, raw, rune⟩ ?_ found
    rintro ⟨slash, more, same | ⟨same, -⟩⟩
    · exact line more slash same
    · exact general more slash same

theorem extent_of_cuts {c : Char} {rest : List Char} {sort : PieceClass} {n : Nat}
    (cuts : Cuts c rest sort n) : extent c rest = some (sort, n) := by
  cases cuts with
  | blank space => simp [extent, space]
  | word solid opens => simp [extent, solid, opens]
  | number solid apart starts _ found =>
      simp only [extent, solid, apart, starts, found, Bool.false_eq_true, if_false, if_true]
  | line more => simp [extent, solid_apart '/' (by simp)]
  | general closes => simp [extent, solid_apart '/' (by simp), closes]
  | quoted ends => simp [extent, solid_apart '\x22' (by simp), ends]
  | raw ends => simp [extent, solid_apart '\x60' (by simp), ends]
  | rune ends => simp [extent, solid_apart '\x27' (by simp), ends]
  | mark plain unquoted open' found =>
      simp only [extent, plain.space, plain.word, plain.number, Bool.false_eq_true, if_false]
      split
      · exact absurd ⟨rfl, _, .inl rfl⟩ open'
      · split
        · rename_i closes
          exact absurd ⟨rfl, _, .inr ⟨rfl, by simp [closes]⟩⟩ open'
        · exact found
      · exact absurd rfl unquoted.1
      · exact absurd rfl unquoted.2.1
      · exact absurd rfl unquoted.2.2
      · exact found

/-! What holds of each piece by its kind, holds of all. -/

section Pieces

variable (holds : PieceClass → List Char → Prop)

def OfComments (gaps : List Gap) : Prop :=
  ∀ text, .comment text ∈ gaps → holds .comment text.toList

variable {holds}

theorem cut_forall (each : ∀ {c rest sort n}, Cuts c rest sort n → holds sort (c :: rest.take n))
    {cs : List Char} {pieces : List Piece} (found : cut cs = some pieces) :
    ∀ piece ∈ pieces, holds piece.sort piece.text.toList := by
  fun_induction cut cs generalizing pieces with
  | case1 => simp_all
  | case2 => simp at found
  | case3 c rest sort n here ih =>
      obtain ⟨more, later, rfl⟩ := Option.map_eq_some_iff.1 found
      intro piece member
      rcases List.mem_cons.1 member with rfl | member
      · simpa using each (cuts_of_extent here)
      · exact ih later piece member

theorem gather_forall (gaps : List Gap) {pieces : List Piece} (before : OfComments holds gaps)
    (each : ∀ piece ∈ pieces, holds piece.sort piece.text.toList) :
    (∀ token ∈ (gather gaps pieces).1,
        holds (.lexeme token.lexeme) token.text.toList ∧ OfComments holds token.lead)
      ∧ OfComments holds (gather gaps pieces).2 := by
  induction pieces generalizing gaps with
  | nil => simpa [gather] using before
  | cons piece rest ih =>
      have here := each piece List.mem_cons_self
      have others : ∀ other ∈ rest, holds other.sort other.text.toList :=
        fun other member => each other (List.mem_cons_of_mem _ member)
      unfold gather
      split
      · exact ih _ (by simpa [OfComments] using before) others
      · rename_i sort
        rw [sort] at here
        refine ih _ (fun text member => ?_) others
        rcases List.mem_append.1 member with early | last
        · exact before text early
        · obtain rfl : text = piece.text := by simpa using last
          exact here
      · rename_i lexeme sort
        rw [sort] at here
        have later := ih [] (by simp [OfComments]) others
        refine ⟨fun token member => ?_, later.2⟩
        rcases List.mem_cons.1 member with rfl | member
        · exact ⟨here, before⟩
        · exact later.1 token member

variable (holds) in
theorem tokenize_forall
    (each : ∀ {c rest sort n}, Cuts c rest sort n → holds sort (c :: rest.take n))
    {text : String} {tokens : List Token} {trailing : List Gap}
    (lexed : tokenize text = some (tokens, trailing)) :
    (∀ token ∈ tokens,
        holds (.lexeme token.lexeme) token.text.toList ∧ OfComments holds token.lead)
      ∧ OfComments holds trailing := by
  unfold tokenize at lexed
  split at lexed
  · obtain ⟨rfl, rfl⟩ := Prod.mk.inj (Option.some.inj lexed)
    simp [OfComments]
  · split at lexed
    · obtain ⟨pieces, found, same⟩ := Option.map_eq_some_iff.1 lexed
      have := gather_forall [.blank (String.singleton byteOrderMark)] (by simp [OfComments])
        (cut_forall each found)
      rwa [same] at this
    · obtain ⟨pieces, found, same⟩ := Option.map_eq_some_iff.1 lexed
      have := gather_forall [] (by simp [OfComments]) (cut_forall each found)
      rwa [same] at this

end Pieces

end InterfaceMocks.Syntax.Lexer
