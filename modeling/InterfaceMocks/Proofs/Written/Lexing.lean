import InterfaceMocks.Proofs.Text.Matching
import InterfaceMocks.Proofs.Written.Trees

/-!
Tokens are cut back out of their text. A token stands before what follows it when the two are not
read as one: `Stands` says so for a token, and `Lexes` for a run of tokens. Each class of token that
a written source has stands under a condition on the next character only.
-/

namespace InterfaceMocks.Written

open InterfaceMocks.Syntax
open InterfaceMocks.Text
open Lexer

def chars (tokens : List Token) : List Char := tokens.flatMap fun token => token.source.toList

/-- Whether no character of an identifier comes next. -/
def Fresh (next : List Char) : Prop := ∀ c ∈ next.head?, Identifier.continues c = false

/-- White space, and then a text that is cut off as one token and has no part of an identifier in
common with what comes next. -/
structure Stands (token : Token) (next : List Char) : Prop where
  lead : ∃ space, token.lead = gap space ∧ space.toList.all isSpace = true
  cut : ∃ c more, token.text.toList = c :: more ∧ isSpace c = false
    ∧ extent c (more ++ next) = some (.lexeme token.lexeme, more.length)
  apart : (∀ c ∈ token.text.toList.getLast?, Identifier.continues c = false) ∨ Fresh next

def Lexes : List Token → List Char → Prop
  | [], _ => True
  | token :: rest, next => Stands token (chars rest ++ next) ∧ Lexes rest next

theorem chars_cons (token : Token) (rest : List Token) :
    chars (token :: rest) = token.source.toList ++ chars rest := rfl

theorem chars_append (first second : List Token) :
    chars (first ++ second) = chars first ++ chars second := List.flatMap_append

theorem lexes_append {first second : List Token} {next : List Char} :
    Lexes (first ++ second) next ↔ Lexes first (chars second ++ next) ∧ Lexes second next := by
  induction first with
  | nil => simp [Lexes]
  | cons token rest ih => simp [Lexes, ih, chars_append, and_assoc]

theorem toList_written (tokens : List Token) :
    (String.join (tokens.map Token.source)).toList = chars tokens := by
  rw [String.toList_join, List.flatMap_map]
  rfl

theorem gap_text (space : String) : Gap.textOf (gap space) = space := by
  unfold gap
  split
  · simp_all [Gap.textOf]
  · simp [Gap.textOf, Gap.text]

def piecesOf (token : Token) : List Piece :=
  (token.lead.map fun space => ⟨.blank, space.text⟩) ++ [⟨.lexeme token.lexeme, token.text⟩]

theorem run_append {p : Char → Bool} {cs : List Char} (all : cs.all p = true) {next : List Char}
    (stops : ∀ c ∈ next.head?, p c = false) : run p (cs ++ next) = cs.length := by
  have whole := List.all_eq_true.1 all
  rw [run, List.takeWhile_append_of_pos whole]
  cases next with
  | nil => simp
  | cons c rest => simp [List.takeWhile, stops c rfl]

/-- White space is cut off as one piece. -/
theorem cut_space {space : String} (blank : space.toList.all isSpace = true) {next : List Char}
    (stops : ∀ c ∈ next.head?, isSpace c = false) :
    cut (space.toList ++ next) =
      (cut next).map (((gap space).map fun gap => ⟨.blank, gap.text⟩) ++ ·) := by
  cases chars : space.toList with
  | nil =>
      have none : space = "" := String.toList_injective (by simpa using chars)
      simp [gap, none]
  | cons c rest =>
      have some : space ≠ "" := by
        rintro rfl
        simp at chars
      rw [chars, List.all_cons, Bool.and_eq_true] at blank
      have whole : run isSpace (rest ++ next) = rest.length := run_append blank.2 stops
      have text : String.ofList (c :: rest) = space := by rw [← chars, String.ofList_toList]
      rw [List.cons_append, Lexer.cut]
      simp [extent, blank.1, whole, gap, some, text, Gap.text]

/-- A token that stands is cut off, after its white space. -/
theorem cut_token {token : Token} {next : List Char} (stands : Stands token next) :
    cut (token.source.toList ++ next) = (cut next).map (piecesOf token ++ ·) := by
  obtain ⟨⟨space, lead, blank⟩, ⟨c, more, text, notSpace, extent⟩, -⟩ := stands
  have whole : String.ofList (c :: more) = token.text := by rw [← text, String.ofList_toList]
  have source : token.source.toList ++ next = space.toList ++ (c :: (more ++ next)) := by
    simp [Token.source, lead, gap_text, text]
  rw [source, cut_space blank (by rintro d ⟨⟩; exact notSpace), Lexer.cut, extent]
  simp [whole, piecesOf, lead, Function.comp_def]

theorem cut_tokens {tokens : List Token} {next : List Char} (lexes : Lexes tokens next) :
    cut (chars tokens ++ next) = (cut next).map (tokens.flatMap piecesOf ++ ·) := by
  induction tokens with
  | nil => simp [chars]
  | cons token rest ih =>
      obtain ⟨stands, later⟩ := lexes
      rw [chars_cons, List.append_assoc, cut_token stands, ih later]
      simp [Function.comp_def]

theorem gather_blanks (gaps : List Gap) (space : String) (pieces : List Piece) :
    gather gaps (((gap space).map fun gap => ⟨.blank, gap.text⟩) ++ pieces) =
      gather (gaps ++ gap space) pieces := by
  unfold gap
  split
  · simp
  · simp [gather, Gap.text]

theorem gather_tokens {tokens : List Token} {next : List Char} (lexes : Lexes tokens next)
    (pieces : List Piece) :
    gather [] (tokens.flatMap piecesOf ++ pieces) =
      (tokens ++ (gather [] pieces).1, (gather [] pieces).2) := by
  induction tokens with
  | nil => simp
  | cons token rest ih =>
      obtain ⟨⟨⟨space, lead, -⟩, -, -⟩, later⟩ := lexes
      obtain ⟨_, lexeme, text⟩ := token
      subst lead
      simp only [List.flatMap_cons, piecesOf, List.append_assoc]
      rw [gather_blanks]
      simp [gather, ih later]

/-- The tokens of a written text are those it was written from. -/
theorem tokenize_written {tokens : List Token} {trailing : String}
    (blank : trailing.toList.all isSpace = true) (lexes : Lexes tokens trailing.toList)
    (unmarked : ∀ c ∈ (chars tokens ++ trailing.toList).head?, c ≠ byteOrderMark) :
    tokenize (String.join (tokens.map Token.source) ++ trailing) = some (tokens, gap trailing) := by
  have found : cut (chars tokens ++ trailing.toList) =
      some (tokens.flatMap piecesOf ++ (gap trailing).map fun gap => ⟨.blank, gap.text⟩) := by
    have rest : cut (trailing.toList ++ []) = _ := cut_space blank (by simp)
    rw [List.append_nil] at rest
    rw [cut_tokens lexes, rest]
    simp [Lexer.cut]
  have gathered : gather [] (tokens.flatMap piecesOf
      ++ (gap trailing).map fun gap => ⟨.blank, gap.text⟩) = (tokens, gap trailing) := by
    have rest := gather_blanks [] trailing []
    simp only [List.append_nil, List.nil_append] at rest
    rw [gather_tokens lexes, rest]
    simp [gather]
  have text : (String.join (tokens.map Token.source) ++ trailing).toList =
      chars tokens ++ trailing.toList := by
    rw [String.toList_append, toList_written]
  unfold tokenize
  rw [text]
  cases start : chars tokens ++ trailing.toList with
  | nil =>
      rw [start] at found
      simp only [Lexer.cut, Option.some.injEq] at found
      rw [← found] at gathered
      simp only [gather, Prod.mk.injEq] at gathered
      simp [← gathered]
  | cons c rest =>
      have other : c ≠ byteOrderMark := unmarked c (by simp [start])
      rw [start] at found
      simp [other, found, gathered]

/-! The classes of token. -/

theorem not_isSpace_of_opens {c : Char} (opens : Identifier.opens c = true) : isSpace c = false := by
  cases space : isSpace c with
  | false => rfl
  | true =>
      simp only [isSpace, Bool.or_eq_true, beq_iff_eq] at space
      rcases space with ((((rfl | rfl) | rfl) | rfl) | rfl) | rfl <;> exact absurd opens (by decide)

theorem extent_word {text : String} (identifier : Identifier.isIdentifier text = true)
    {next : List Char} (fresh : Fresh next) :
    ∃ c more, text.toList = c :: more ∧ isSpace c = false
      ∧ extent c (more ++ next) = some (.lexeme .word, more.length) := by
  unfold Identifier.isIdentifier at identifier
  split at identifier
  · simp at identifier
  · rename_i c more text
    rw [Bool.and_eq_true] at identifier
    have notSpace := not_isSpace_of_opens identifier.1
    refine ⟨c, more, text, notSpace, ?_⟩
    simp [extent, notSpace, identifier.1, run_append identifier.2 fresh]

theorem stands_word {space text : String} (blank : space.toList.all isSpace = true)
    (identifier : Identifier.isIdentifier text = true) {next : List Char} (fresh : Fresh next) :
    Stands (token space .word text) next :=
  ⟨⟨space, rfl, blank⟩, extent_word identifier fresh, .inr fresh⟩

/-- Punctuation that is never the start of a longer mark. -/
def brackets : List String := ["(", ")", "[", "]", "\x7b", "\x7d", ","]

theorem stands_bracket {space text : String} (blank : space.toList.all isSpace = true)
    (bracket : text ∈ brackets) (next : List Char) : Stands (token space .mark text) next := by
  have last : ∀ c ∈ (token space .mark text).text.toList.getLast?,
      Identifier.continues c = false := by
    have checked : ∀ text ∈ brackets, ∀ c ∈ text.toList.getLast?,
        Identifier.continues c = false := by
      simp [brackets]
      decide
    exact checked text bracket
  refine ⟨⟨space, rfl, blank⟩, ?_, .inl last⟩
  simp only [brackets, List.mem_cons, List.not_mem_nil, or_false] at bracket
  rcases bracket with rfl | rfl | rfl | rfl | rfl | rfl | rfl
  · exact ⟨'(', [], by simp, rfl, rfl⟩
  · exact ⟨')', [], by simp, rfl, rfl⟩
  · exact ⟨'[', [], by simp, rfl, rfl⟩
  · exact ⟨']', [], by simp, rfl, rfl⟩
  · exact ⟨'\x7b', [], by simp, rfl, rfl⟩
  · exact ⟨'\x7d', [], by simp, rfl, rfl⟩
  · exact ⟨',', [], by simp, rfl, rfl⟩

theorem extent_beforeEquals {c : Char} (listed : c ∈ ['*', '=']) {next : List Char}
    (other : ∀ d ∈ next.head?, d ≠ '=') : extent c next = some (.lexeme .mark, 0) := by
  simp only [List.mem_cons, List.not_mem_nil, or_false] at listed
  cases next with
  | nil => rcases listed with rfl | rfl <;> rfl
  | cons d rest =>
      have apart : ('=' == d) = false := by simpa using (other d rfl).symm
      rcases listed with rfl | rfl <;>
      · show markExtent _ = _
        simp [markExtent, marks, List.find?, List.isPrefixOf, apart]
        rfl

/-- A mark that only an equals sign makes longer. -/
theorem stands_beforeEquals {space text : String} (blank : space.toList.all isSpace = true)
    (listed : text ∈ ["*", "="]) {next : List Char} (other : ∀ c ∈ next.head?, c ≠ '=') :
    Stands (token space .mark text) next := by
  simp only [List.mem_cons, List.not_mem_nil, or_false] at listed
  rcases listed with rfl | rfl
  · exact ⟨⟨space, rfl, blank⟩, ⟨'*', [], by simp, rfl, extent_beforeEquals (by simp) other⟩,
      .inl (by simp; decide)⟩
  · exact ⟨⟨space, rfl, blank⟩, ⟨'=', [], by simp, rfl, extent_beforeEquals (by simp) other⟩,
      .inl (by simp; decide)⟩

theorem stands_dot {space : String} (blank : space.toList.all isSpace = true) {next : List Char}
    (other : ∀ c ∈ next.head?, c ≠ '.' ∧ c.isDigit = false) :
    Stands (token space .mark ".") next := by
  refine ⟨⟨space, rfl, blank⟩, ⟨'.', [], by simp, rfl, ?_⟩, .inl (by simp; decide)⟩
  cases next with
  | nil => rfl
  | cons c rest =>
      have single : ('.' == c) = false := by simpa using (other c rfl).1.symm
      have extent : extent '.' (c :: rest) = markExtent ('.' :: c :: rest) := by
        simp [extent, isDigitNext, (other c rfl).2]
        rfl
      have found : marks.find? (fun mark => mark.toList.isPrefixOf ('.' :: c :: rest)) =
          some "." := by
        simp [marks, List.find?, List.isPrefixOf, single]
      rw [List.nil_append, extent, markExtent, found]
      rfl

def Quotable (text : String) : Prop :=
  quotedEnd (.digits 0) (text.toList ++ ['\x22']) = some (text.toList.length + 1)

instance (text : String) : Decidable (Quotable text) := by
  unfold Quotable
  infer_instance

theorem quotedEnd_append {expect : Expect} {cs : List Char} {n : Nat}
    (ends : quotedEnd expect cs = some n) (next : List Char) :
    quotedEnd expect (cs ++ next) = some n := by
  induction cs generalizing expect n with
  | nil => cases expect <;> simp [quotedEnd] at ends
  | cons c rest ih =>
      match expect with
      | .escape =>
          simp only [quotedEnd, List.cons_append, Option.map_eq_some_iff] at ends ⊢
          obtain ⟨m, found, rfl⟩ := ends
          exact ⟨m, ih found, rfl⟩
      | .digits 0 =>
          simp only [quotedEnd, List.cons_append] at ends ⊢
          split at ends
          · simp_all
          · split at ends
            · simp at ends
            · split at ends <;>
              · obtain ⟨m, found, rfl⟩ := Option.map_eq_some_iff.1 ends
                simp_all
      | .digits (more + 1) =>
          simp only [quotedEnd, List.cons_append] at ends ⊢
          split at ends
          · obtain ⟨m, found, rfl⟩ := Option.map_eq_some_iff.1 ends
            simp_all
          · simp at ends

theorem quotable_plain {text : String}
    (plain : ∀ c ∈ text.toList, c ≠ '\x22' ∧ c ≠ '\n' ∧ c ≠ '\\') : Quotable text := by
  rw [Quotable]
  generalize text.toList = cs at plain
  induction cs with
  | nil => rfl
  | cons c rest ih =>
      obtain ⟨quote, line, escape⟩ := plain c List.mem_cons_self
      have later := ih fun d member => plain d (List.mem_cons_of_mem _ member)
      simp [quotedEnd, quote, line, escape, later]

theorem stands_quoted {space text : String} (blank : space.toList.all isSpace = true)
    (quotable : Quotable text) (next : List Char) :
    Stands (token space .quoted (quoted text)) next := by
  have last : ∀ c ∈ (quoted text).toList.getLast?, Identifier.continues c = false := by
    have same : (quoted text).toList.getLast? = some '\x22' := by
      rw [quoted, String.toList_append, List.getLast?_append]
      simp
    intro c member
    obtain rfl := Option.some.inj (same.symm.trans member)
    decide
  refine ⟨⟨space, rfl, blank⟩,
    ⟨'\x22', text.toList ++ ['\x22'], by simp [quoted], rfl, ?_⟩, .inl last⟩
  have ends := quotedEnd_append quotable next
  rw [List.append_assoc, List.singleton_append] at ends
  have extent : extent '\x22' (text.toList ++ '\x22' :: next) =
      (quotedEnd (.digits 0) (text.toList ++ '\x22' :: next)).map
        fun n => (.lexeme .quoted, n) := rfl
  simp [extent, ends]

def LiteralStands (text : String) : Prop :=
  ∃ c more, text.toList = c :: more ∧ isSpace c = false ∧ classOf text ≠ .word
    ∧ classOf text ≠ .mark
    ∧ ∀ next, extent c (more ++ ']' :: next) = some (.lexeme (classOf text), more.length)

theorem LiteralStands.stands {text : String} (literal : LiteralStands text) (next : List Char) :
    Stands (token "" (classOf text) text) (']' :: next) := by
  obtain ⟨c, more, same, space, -, -, extent⟩ := literal
  exact ⟨⟨"", rfl, rfl⟩, ⟨c, more, same, space, extent next⟩, .inr (by simp [Fresh]; decide)⟩

theorem startsWith_of_accepts {p : Pattern} {c : Char} {rest : List Char}
    (whole : p.accepts (c :: rest) = true) : p.startsWith c = true := by
  cases starts : p.startsWith c with
  | true => rfl
  | false =>
      have none : p.accepts (c :: rest) = false := by
        rw [Pattern.accepts, Pattern.derivative_of_startsWith starts]
        exact Pattern.not_accepts_of_isVoid rfl rest
      exact absurd (whole.symm.trans none) (by simp)

theorem int_startsWith {c : Char} (starts : Number.int.startsWith c = true) :
    c ∈ "0123456789".toList := by
  have cases : Number.int.startsWith c =
      ("0".toList.contains c || (("0".toList.contains c || "123456789".toList.contains c)
        || ("0".toList.contains c || "0".toList.contains c))) := by
    simp [Number.int, Number.binaryInt, Number.decimalInt, Number.octalInt, Number.hexInt,
      Number.letter, Pattern.choice, Pattern.sequence, Pattern.oneOf, Pattern.startsWith,
      Pattern.nullable]
  rw [cases] at starts
  simp only [Bool.or_eq_true, List.contains_iff_mem] at starts
  simp at starts ⊢
  grind

/-- A text that is a whole number is one wherever no number goes on after it. -/
theorem numberExtent_int {cs : List Char} (int : Number.int.accepts cs = true) (tail : List Char)
    (ends : ∀ p ∈ [Number.int, Number.float, Number.imaginary],
      p.longest (cs ++ tail) = p.longest cs) :
    numberExtent (cs ++ tail) = some (.lexeme .int, cs.length - 1) := by
  have nonempty : cs.length ≠ 0 := by
    intro none
    rw [List.length_eq_zero_iff.1 none] at int
    exact absurd int (by decide)
  have whole := Pattern.longest_of_accepts int
  have first : longer (.int, some cs.length) (.float, Number.float.longest cs) =
      (.int, some cs.length) := by
    cases found : Number.float.longest cs with
    | none => rfl
    | some m =>
        have := (Pattern.longest_accepts found).1
        simp [longer]
        omega
  have second : longer (.int, some cs.length) (.imaginary, Number.imaginary.longest cs) =
      (.int, some cs.length) := by
    cases found : Number.imaginary.longest cs with
    | none => rfl
    | some m =>
        have := (Pattern.longest_accepts found).1
        simp [longer]
        omega
  simp only [List.mem_cons, List.not_mem_nil, or_false, forall_eq_or_imp, forall_eq] at ends
  simp [numberExtent, ends, whole, first, second, nonempty]

theorem extent_digit {c : Char} (digit : c ∈ "0123456789".toList) (rest : List Char) :
    isSpace c = false ∧ extent c rest = numberExtent (c :: rest) := by
  simp at digit
  rcases digit with rfl | rfl | rfl | rfl | rfl | rfl | rfl | rfl | rfl | rfl <;> exact ⟨rfl, rfl⟩

/-- A whole number is cut off before a closing bracket. -/
theorem literalStands_int {text : String} (int : Number.isInt text = true) :
    LiteralStands text ∧ classOf text = .int := by
  have accepts : Number.int.accepts text.toList = true := int
  cases cs : text.toList with
  | nil =>
      rw [cs] at accepts
      exact absurd accepts (by decide)
  | cons c more =>
      rw [cs] at accepts
      have digit := int_startsWith (startsWith_of_accepts accepts)
      have alone : extent c more = some (.lexeme .int, more.length) := by
        have number := numberExtent_int accepts [] (by simp)
        simpa [(extent_digit digit _).2] using number
      have int : classOf text = .int := by simp [classOf, cs, alone]
      refine ⟨⟨c, more, cs, (extent_digit digit []).1, by simp [int], by simp [int], ?_⟩, int⟩
      intro next
      have number := numberExtent_int accepts (']' :: next) fun p member =>
        Pattern.longest_append (by
          simp only [List.mem_cons, List.not_mem_nil, or_false] at member
          rcases member with rfl | rfl | rfl <;> decide) _ _
      simpa [(extent_digit digit _).2, int] using number

end InterfaceMocks.Written
