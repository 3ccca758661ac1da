import InterfaceMocks.Proofs.Grammar.Derivation
import InterfaceMocks.Proofs.Text.Ink
import InterfaceMocks.Proofs.Written.Lexing
import InterfaceMocks.Proofs.Written.Texts

/-!
A source is the text of its trees. Tokens are cut off the source without loss, and the grammar hands
on each of them: what is held for an expression is taken up by it exactly once, and before anything
else, which `takesUp` checks.
-/

namespace InterfaceMocks.Written

open InterfaceMocks.Syntax InterfaceMocks.Grammar InterfaceMocks.Text
open Lexer

/-! Pieces. -/

section Pieces

theorem isBlank_cases {p : Char → Bool}
    (each : ∀ n ∈ [0x09, 0x0A, 0x0B, 0x0C, 0x0D, 0x20, 0x85, 0xA0, 0x1680, 0x2000, 0x2001, 0x2002,
      0x2003, 0x2004, 0x2005, 0x2006, 0x2007, 0x2008, 0x2009, 0x200A, 0x2028, 0x2029, 0x202F,
      0x205F, 0x3000], p (Char.ofNat n) = true)
    {c : Char} (blank : isBlank c = true) : p c = true := by
  rw [← Char.ofNat_toNat c]
  refine each c.toNat ?_
  simp only [isBlank, Bool.or_eq_true, Bool.and_eq_true, decide_eq_true_eq, beq_iff_eq] at blank
  simp only [List.mem_cons, List.not_mem_nil, or_false]
  omega

theorem solid_of_continues {c : Char} (continues : Identifier.continues c = true) :
    isBlank c = false := by
  by_contra blank
  have none := isBlank_cases (p := fun c => !Identifier.continues c) (by decide +kernel)
    (Bool.eq_true_of_not_eq_false blank)
  simp [continues] at none

theorem solid_of_longest {p : Pattern} {cs : List Char} {n : Nat} (found : p.longest cs = some n)
    (never : ∀ c, isBlank c = true → p.avoids c = true) : ∀ c ∈ cs.take n, isBlank c = false := by
  intro c member
  by_contra blank
  exact Pattern.not_mem_of_avoids (never c (Bool.eq_true_of_not_eq_false blank))
    (Pattern.longest_accepts found).2 member

theorem longer_some {first second : Lexeme × Option Nat} {n : Nat}
    (found : (longer first second).2 = some n) : first.2 = some n ∨ second.2 = some n := by
  unfold longer at found
  split at found
  · split at found
    · exact .inr found
    · exact .inl found
  · exact .inr found
  · exact .inl found

theorem solid_number {cs : List Char} {sort : PieceClass} {n : Nat}
    (found : numberExtent cs = some (sort, n)) : ∀ c ∈ cs.take (n + 1), isBlank c = false := by
  have int (c : Char) : isBlank c = true → Number.int.avoids c = true :=
    isBlank_cases (p := fun c => Number.int.avoids c) (by decide +kernel)
  have float (c : Char) : isBlank c = true → Number.float.avoids c = true :=
    isBlank_cases (p := fun c => Number.float.avoids c) (by decide +kernel)
  have imaginary (c : Char) : isBlank c = true → Number.imaginary.avoids c = true :=
    isBlank_cases (p := fun c => Number.imaginary.avoids c) (by decide +kernel)
  unfold numberExtent at found
  obtain ⟨size, longest, rest⟩ := Option.bind_eq_some_iff.1 found
  split at rest
  · simp at rest
  · simp only [Option.some.injEq, Prod.mk.injEq] at rest
    obtain rfl : size = n + 1 := by omega
    rcases longer_some longest with inner | outer
    · rcases longer_some inner with whole | broken
      · exact solid_of_longest whole int
      · exact solid_of_longest broken float
    · exact solid_of_longest outer imaginary

theorem solid_mark {cs : List Char} {sort : PieceClass} {n : Nat}
    (found : markExtent cs = some (sort, n)) : ∀ c ∈ cs.take (n + 1), isBlank c = false := by
  have listed : (marks.all fun mark =>
      mark.length != 0 && mark.toList.all fun c => !isBlank c) = true := by
    decide +kernel
  have solid : ∀ mark ∈ marks, mark.length ≠ 0 ∧ ∀ c ∈ mark.toList, isBlank c = false := by
    simpa [List.all_eq_true] using listed
  obtain ⟨mark, listed, same⟩ := Option.map_eq_some_iff.1 found
  obtain ⟨some, each⟩ := solid mark (List.mem_of_find?_eq_some listed)
  have begins : mark.toList.isPrefixOf cs = true :=
    List.find?_some (p := fun mark : String => mark.toList.isPrefixOf cs) listed
  obtain ⟨rest, rfl⟩ := List.isPrefixOf_iff_prefix.1 begins
  simp only [Prod.mk.injEq] at same
  have size : n + 1 = mark.toList.length := by
    rw [String.length_toList]
    omega
  rwa [size, List.take_left]

/-- A scan that ends with a quote, within the text. -/
def EndsWith (quote : Char) (cs : List Char) (n : Nat) : Prop :=
  n ≤ cs.length ∧ ∃ front, cs.take n = front ++ [quote]

namespace EndsWith

variable {quote : Char} {cs : List Char} {n : Nat}

theorem cons (ends : EndsWith quote cs n) (c : Char) : EndsWith quote (c :: cs) (n + 1) := by
  obtain ⟨within, front, same⟩ := ends
  exact ⟨by simpa using within, c :: front, by simp [same]⟩

theorem closes (ends : EndsWith quote cs n) (solid : isBlank quote = false) :
    Closes (cs.take n) := by
  obtain ⟨-, front, same⟩ := ends
  exact ⟨front, quote, same, solid⟩

end EndsWith

theorem quotedEnd_ends {expect : Expect} {cs : List Char} {n : Nat}
    (found : quotedEnd expect cs = some n) : EndsWith '\x22' cs n := by
  fun_induction quotedEnd expect cs generalizing n with
  | case1 => simp at found
  | case2 c rest ih | case5 c rest _ _ _ ih | case6 c rest _ _ _ ih | case7 more c rest _ ih =>
      obtain ⟨m, later, rfl⟩ := Option.map_eq_some_iff.1 found
      exact (ih later).cons c
  | case3 c rest quote =>
      obtain rfl := Option.some.inj found
      exact ⟨by simp, [], by simp [eq_of_beq quote]⟩
  | case4 | case8 => simp at found

theorem rawEnd_ends {cs : List Char} {n : Nat} (found : rawEnd cs = some n) :
    EndsWith '\x60' cs n := by
  induction cs generalizing n with
  | nil => simp [rawEnd] at found
  | cons c rest ih =>
      simp only [rawEnd] at found
      split at found
      · rename_i quote
        obtain rfl := Option.some.inj found
        exact ⟨by simp, [], by simp [eq_of_beq quote]⟩
      · obtain ⟨m, later, rfl⟩ := Option.map_eq_some_iff.1 found
        exact (ih later).cons c

theorem runeEnd_closes {cs : List Char} {n : Nat} (found : runeEnd cs = some n) :
    Closes (cs.take n) := by
  have closed {m : Nat} (quote : cs[m]? = some '\x27') : Closes (cs.take (m + 1)) := by
    rw [List.take_add_one, quote]
    exact ⟨cs.take m, '\x27', rfl, by decide⟩
  unfold runeEnd at found
  split at found
  · rename_i c rest
    obtain ⟨size, -, ends⟩ := Option.bind_eq_some_iff.1 found
    split at ends
    · rename_i quote
      obtain rfl := Option.some.inj ends
      exact closed (m := size + 2) (by simpa using quote)
    · simp at ends
  · split at found
    · simp at found
    · obtain rfl := Option.some.inj found
      exact closed (m := 1) rfl
  · simp at found

/-- What is known of the text of a piece. A token has ink at both ends, and a mark has nothing else. -/
def PieceClass.Fits : PieceClass → List Char → Prop
  | .blank, _ => True
  | .comment, text => 0 < ink text
  | .lexeme lexeme, text =>
      Opens text ∧ Closes text ∧ (lexeme = .mark → ∀ c ∈ text, isBlank c = false)

theorem fits_of_solid {sort : PieceClass} {c : Char} {rest : List Char}
    (solid : ∀ d ∈ c :: rest, isBlank d = false) : PieceClass.Fits sort (c :: rest) := by
  have isWord : IsWord (c :: rest) := ⟨by simp, solid⟩
  cases sort with
  | blank => trivial
  | comment => exact (opens_word isWord).ink_pos
  | lexeme => exact ⟨opens_word isWord, closes_word isWord, fun _ => solid⟩

theorem fits_literal {lexeme : Lexeme} {c : Char} {text : List Char} (opens : isBlank c = false)
    (closes : Closes text) (other : lexeme ≠ .mark) :
    PieceClass.Fits (.lexeme lexeme) (c :: text) :=
  ⟨⟨c, text, rfl, opens⟩, closes.append [c], fun same => absurd same other⟩

theorem cuts_fit {c : Char} {rest : List Char} {sort : PieceClass} {n : Nat}
    (cuts : Cuts c rest sort n) : PieceClass.Fits sort (c :: rest.take n) := by
  -- a comment has at least its slash
  have slash (text : List Char) : 0 < ink ('/' :: text) := by
    have : Opens ('/' :: text) := ⟨_, _, rfl, by decide⟩
    exact this.ink_pos
  cases cuts with
  | blank => trivial
  | word _ opens =>
      refine fits_of_solid fun d member => ?_
      rcases List.mem_cons.1 member with rfl | member
      · exact solid_of_continues (continues_of_opens opens)
      · rw [take_run] at member
        exact solid_of_continues (List.all_eq_true.1 List.all_takeWhile d member)
  | number _ _ _ _ found => exact fits_of_solid (solid_number found)
  | line | general => exact slash _
  | quoted ends => exact fits_literal (by decide) ((quotedEnd_ends ends).closes (by decide)) (by simp)
  | raw ends => exact fits_literal (by decide) ((rawEnd_ends ends).closes (by decide)) (by simp)
  | rune ends => exact fits_literal (by decide) (runeEnd_closes ends) (by simp)
  | mark _ _ _ found => exact fits_of_solid (solid_mark found)

/-- The pieces of a text, joined, are the text. -/
theorem cut_join {cs : List Char} {pieces : List Piece} (found : cut cs = some pieces) :
    (pieces.flatMap fun piece => piece.text.toList) = cs := by
  fun_induction Lexer.cut cs generalizing pieces with
  | case1 => simp_all
  | case2 => simp at found
  | case3 c rest sort n here ih =>
      obtain ⟨more, later, rfl⟩ := Option.map_eq_some_iff.1 found
      simp [ih later]

end Pieces

/-! Tokens. -/

section Tokens

/-- A token as it is cut off: it has ink at both ends, and so have the comments before it. -/
structure IsCut (token : Token) : Prop where
  opens : Opens token.text.toList
  closes : Closes token.text.toList
  mark : token.lexeme = .mark → ∀ c ∈ token.text.toList, isBlank c = false
  lead : ∀ text, .comment text ∈ token.lead → 0 < ink text.toList

theorem gather_join (gaps : List Gap) (pieces : List Piece) :
    chars (gather gaps pieces).1 ++ (Gap.textOf (gather gaps pieces).2).toList =
      (Gap.textOf gaps).toList ++ pieces.flatMap fun piece => piece.text.toList := by
  induction pieces generalizing gaps with
  | nil => simp [gather, chars]
  | cons piece rest ih =>
      unfold gather
      split
      · rw [ih]
        simp [Gap.textOf, Gap.text]
      · rw [ih]
        simp [Gap.textOf, Gap.text]
      · simp only [chars_cons, Token.source, String.toList_append, List.append_assoc, ih,
          List.flatMap_cons]
        simp [Gap.textOf]

theorem tokenize_isCut {text : String} {tokens : List Token} {trailing : List Gap}
    (lexed : tokenize text = some (tokens, trailing)) :
    (∀ token ∈ tokens, IsCut token) ∧ ∀ text, .comment text ∈ trailing → 0 < ink text.toList := by
  obtain ⟨each, last⟩ := tokenize_forall PieceClass.Fits cuts_fit lexed
  refine ⟨fun token member => ?_, last⟩
  obtain ⟨⟨opens, closes, mark⟩, lead⟩ := each token member
  exact ⟨opens, closes, mark, lead⟩

/-- The tokens of a text and what comes after them, joined, are the text. -/
theorem tokenize_join {text : String} {tokens : List Token} {trailing : List Gap}
    (lexed : tokenize text = some (tokens, trailing)) :
    text.toList = chars tokens ++ (Gap.textOf trailing).toList := by
  unfold tokenize at lexed
  split at lexed
  · rename_i nil
    simp only [Option.some.injEq, Prod.mk.injEq] at lexed
    simp [nil, ← lexed.1, ← lexed.2, chars, Gap.textOf]
  · rename_i c rest text
    split at lexed
    · rename_i mark
      obtain ⟨pieces, found, same⟩ := Option.map_eq_some_iff.1 lexed
      have joined := gather_join [.blank (String.singleton byteOrderMark)] pieces
      rw [same, cut_join found] at joined
      rw [joined, text, eq_of_beq mark]
      simp [Gap.textOf, Gap.text]
    · obtain ⟨pieces, found, same⟩ := Option.map_eq_some_iff.1 lexed
      have joined := gather_join [] pieces
      rw [same, cut_join found] at joined
      rw [joined, text]
      simp [Gap.textOf]

end Tokens

/-! Reading. -/

section Reading

/-- Tokens cut anew: the same text, and still tokens. Only marks are not what they were. -/
structure Recut (before after : List Token) : Prop where
  chars : chars after = chars before
  isCut : (∀ token ∈ before, IsCut token) → ∀ token ∈ after, IsCut token
  whole : ∀ token ∈ after, token ∈ before ∨ token.lexeme = .mark
  front : ∀ token ∈ after.head?, token ∈ before.head? ∨ token.lexeme = .mark

namespace Recut

variable {first second third : List Token}

theorem refl (tokens : List Token) : Recut tokens tokens :=
  ⟨rfl, fun each => each, fun _ => .inl, fun _ => .inl⟩

theorem trans (before : Recut first second) (after : Recut second third) : Recut first third where
  chars := after.chars.trans before.chars
  isCut each := after.isCut (before.isCut each)
  whole token member := (after.whole token member).elim (before.whole token) .inr
  front token member := (after.front token member).elim (before.front token) .inr

theorem prepend (recut : Recut first second) (tokens : List Token) :
    Recut (tokens ++ first) (tokens ++ second) where
  chars := by rw [chars_append, chars_append, recut.chars]
  isCut each token member := by
    rcases List.mem_append.1 member with early | late
    · exact each token (List.mem_append_left _ early)
    · exact recut.isCut (fun other inside => each other (List.mem_append_right _ inside)) token late
  whole token member := by
    rcases List.mem_append.1 member with early | late
    · exact .inl (List.mem_append_left _ early)
    · exact (recut.whole token late).imp_left (List.mem_append_right _)
  front token member := by
    cases tokens with
    | nil => exact recut.front token member
    | cons => exact .inl member

end Recut

theorem recut_of_takes {shape : Shape} {tokens rest : List Token} {token : Token}
    (takes : Takes shape tokens token rest) (proper : shape.proper = true) :
    Recut tokens (token :: rest) := by
  cases takes with
  | whole => exact Recut.refl _
  -- a longer mark is cut in two; both parts are solid because the whole is
  | @front text whole left others isMark split left_some =>
      have some : text.toList ≠ [] := by
        intro none
        rw [Shape.proper, ← String.length_toList, none] at proper
        simp at proper
      refine ⟨?_, fun each other member => ?_, fun other member => ?_, fun other member => ?_⟩
      · simp [chars_cons, Token.source, ← split, Gap.textOf]
      · have cut := each whole List.mem_cons_self
        have solid := cut.mark isMark
        rw [← split] at solid
        have start : IsWord text.toList :=
          ⟨some, fun c inside => solid c (List.mem_append_left _ inside)⟩
        have finish : IsWord left :=
          ⟨left_some, fun c inside => solid c (List.mem_append_right _ inside)⟩
        rcases List.mem_cons.1 member with rfl | member
        · exact ⟨opens_word start, closes_word start, fun _ => start.2, cut.lead⟩
        · rcases List.mem_cons.1 member with rfl | member
          · exact ⟨by simpa using opens_word finish, by simpa using closes_word finish,
              fun _ => by simpa using finish.2, by simp⟩
          · exact each other (List.mem_cons_of_mem _ member)
      · rcases List.mem_cons.1 member with rfl | member
        · exact .inr rfl
        · rcases List.mem_cons.1 member with rfl | member
          · exact .inr rfl
          · exact .inl (List.mem_cons_of_mem _ member)
      · obtain rfl := Option.some.inj member
        exact .inr rfl

/-- Whether an expression takes up the trees that are held for it. Where it might lose them, or take
them up twice or too late, this is not known. -/
def takesUp {Rule : Type} : Gram Rule → Option Bool
  | .empty | .terminator | .rule _ | .ahead _ | .absent _ | .joined => some false
  | .leaf _ shape => if shape.proper then some false else none
  | .seq first second => if takesUp second = some false then takesUp first else none
  | .alt first second => if takesUp first = takesUp second then takesUp first else none
  | .many body => if takesUp body = some false then some false else none
  | .node _ body | .as _ body => takesUp body
  | .hold subject rest => if takesUp rest = some true then takesUp subject else none
  | .held => some true
  | .grow step => if takesUp step = some true then some true else none

theorem rules_take_nothing (name : Rule) : takesUp (rules name) = some false :=
  of_decide_eq_true (Rule.forall_of_list (p := fun name => takesUp (rules name) = some false)
    (by decide +kernel) name)

theorem source_takes_nothing : takesUp Statements.source = some false := by decide +kernel

/-- The tokens that an expression reads: those held, if it takes them up, and those to come. -/
def input (took : Bool) (held : List Tree) (cursor : Cursor) : List Token :=
  (if took then Tree.tokensOf held else []) ++ cursor.tokens

/-- What is read and what is left are together the tokens that there were. -/
theorem reads_recut {g : Form} {setting : Setting} {cursor rest : Cursor} {trees : List Tree}
    (reads : Reads rules g setting cursor trees rest) {took : Bool} (takes : takesUp g = some took) :
    Recut (input took setting.held cursor) (Tree.tokensOf trees ++ rest.tokens) := by
  induction reads generalizing took with
  | empty | ended | ahead | absent | joined =>
      obtain rfl : false = took := by simpa [takesUp] using takes
      exact Recut.refl _
  | leaf _ taken =>
      simp only [takesUp, Option.ite_none_right_eq_some, Option.some.injEq] at takes
      obtain ⟨proper, rfl⟩ := takes
      exact recut_of_takes (takes_of_take taken) proper
  | terminator _ next _ =>
      obtain rfl : false = took := by simpa [takesUp] using takes
      simp only [input, next]
      exact Recut.refl _
  | seq _ _ early late =>
      simp only [takesUp, Option.ite_none_right_eq_some] at takes
      rw [tokensOf_append, List.append_assoc]
      exact (early takes.2).trans ((late takes.1).prepend _)
  | left _ chosen =>
      simp only [takesUp, Option.ite_none_right_eq_some] at takes
      exact chosen takes.2
  | right _ _ chosen =>
      simp only [takesUp, Option.ite_none_right_eq_some] at takes
      exact chosen (takes.1.symm.trans takes.2)
  | stop =>
      simp only [takesUp, Option.ite_none_right_eq_some, Option.some.injEq] at takes
      obtain ⟨-, rfl⟩ := takes
      exact Recut.refl _
  | more _ _ once again =>
      have whole := takes
      simp only [takesUp, Option.ite_none_right_eq_some, Option.some.injEq] at takes
      obtain ⟨each, rfl⟩ := takes
      rw [tokensOf_append, List.append_assoc]
      exact (once each).trans ((again whole).prepend _)
  | node _ inside => simpa using inside takes
  | as _ inside =>
      rw [tokensOf_withRole]
      exact inside takes
  | rule _ inside =>
      obtain rfl : false = took := by simpa [takesUp] using takes
      exact inside (rules_take_nothing _)
  | hold _ _ early late =>
      simp only [takesUp, Option.ite_none_right_eq_some] at takes
      exact (early takes.2).trans (late takes.1)
  | held =>
      obtain rfl : true = took := by simpa [takesUp] using takes
      exact Recut.refl _
  | grown =>
      simp only [takesUp, Option.ite_none_right_eq_some, Option.some.injEq] at takes
      obtain ⟨-, rfl⟩ := takes
      exact Recut.refl _
  | grow _ _ once again =>
      have whole := takes
      simp only [takesUp, Option.ite_none_right_eq_some, Option.some.injEq] at takes
      obtain ⟨each, rfl⟩ := takes
      exact (once each).trans (again whole)

end Reading

/-- What is known of a source that was read: it is the text of its trees, token by token. -/
structure Lossless (text : String) (source : Source) : Prop where
  text : text = writtenOf source.trees ++ Gap.textOf source.trailing
  isCut : ∀ token ∈ Tree.tokensOf source.trees, IsCut token
  trailing : ∀ text, .comment text ∈ source.trailing → 0 < ink text.toList

theorem parse_lossless {text : String} {source : Source} (parsed : Source.parse? text = some source) :
    Lossless text source := by
  obtain ⟨tokens, rest, lexed, found, none⟩ := Source.parse_eq_some_iff.1 parsed
  obtain ⟨each, last⟩ := tokenize_isCut lexed
  have recut := reads_recut (reads_iff.2 found) source_takes_nothing
  rw [none, List.append_nil] at recut
  refine ⟨String.toList_injective ?_, recut.isCut each, last⟩
  rw [tokenize_join lexed, String.toList_append, writtenOf, toList_written, recut.chars]
  rfl

end InterfaceMocks.Written
