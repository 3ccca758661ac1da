import InterfaceMocks.Proofs.Comments.Pieces
import InterfaceMocks.Proofs.Preservation.Types
import InterfaceMocks.Proofs.Written.Lossless

/-!
The literals of a source can be written anywhere: a whole number is one by its spelling, and a string
ends with its quote, whatever comes after it.
-/

namespace InterfaceMocks.Preservation

open InterfaceMocks.Syntax InterfaceMocks.Text InterfaceMocks.Grammar
open InterfaceMocks.Written
open InterfaceMocks.Syntax.Lexer

/-- What a string ends with. -/
def IsQuote (c : Char) : Prop := c = '\x22' ∨ c = '\x60'

def StandsAlone (lexeme : Lexeme) (text : List Char) : Prop :=
  ∃ c more, text = c :: more ∧ isSpace c = false
    ∧ (∀ next, extent c (more ++ next) = some (.lexeme lexeme, more.length))
    ∧ ∀ d ∈ text.getLast?, IsQuote d

def Spelled (lexeme : Lexeme) (text : List Char) : Prop :=
  match lexeme with
  | .int => Number.int.accepts text = true
  | .quoted => StandsAlone .quoted text
  | .raw => StandsAlone .raw text
  | _ => True

theorem Spelled.quote {quote : Quote}
    (spelled : Spelled (if quote.raw then .raw else .quoted) quote.text.toList) : quote.Sound := by
  have alone : StandsAlone (if quote.raw then .raw else .quoted) quote.text.toList := by
    cases raw : quote.raw <;> simpa [raw, Spelled] using spelled
  obtain ⟨c, more, text, solid, cut, last⟩ := alone
  have apart : ∀ d ∈ quote.text.toList.getLast?, Identifier.continues d = false := by
    intro d member
    rcases last d member with rfl | rfl <;> decide
  exact ⟨fun space next blank => ⟨⟨space, rfl, blank⟩, ⟨c, more, text, solid, cut next⟩, .inl apart⟩⟩

section Pieces

variable {cs : List Char} {n : Nat}

theorem accepts_of_numberExtent (found : numberExtent cs = some (.lexeme .int, n)) :
    Number.int.accepts (cs.take (n + 1)) = true := by
  obtain ⟨size, longest, rest⟩ := Option.bind_eq_some_iff.1 found
  split at rest
  · simp at rest
  · simp only [Option.some.injEq, Prod.mk.injEq, PieceClass.lexeme.injEq] at rest
    obtain ⟨isInt, rfl⟩ := rest
    -- the class tells which of the three is the longest
    have first {first second : Lexeme × Option Nat} (other : second.1 ≠ .int)
        (isInt : (longer first second).1 = .int) : longer first second = first := by
      unfold longer at isInt ⊢
      split
      · split
        · simp_all
        · rfl
      · simp_all
      · rfl
    have outer := first (by simp) isInt
    rw [outer] at isInt longest
    have inner := first (by simp) isInt
    rw [inner] at longest
    rw [Nat.sub_add_cancel (by omega)]
    exact (Pattern.longest_accepts longest).2

/-- A literal in quotes, from the scan that finds its end. -/
theorem standsAlone_of_scan {scan : List Char → Option Nat} {lexeme : Lexeme} {c quote : Char}
    (determined : Comments.Determined scan) (solid : isSpace c = false)
    (starts : ∀ rest, extent c rest = (scan rest).map fun n => (.lexeme lexeme, n))
    (found : scan cs = some n) (ends : EndsWith quote cs n)
    (closing : IsQuote quote) : StandsAlone lexeme (c :: cs.take n) := by
  obtain ⟨within, front, same⟩ := ends
  refine ⟨c, cs.take n, rfl, solid, fun next => ?_, ?_⟩
  · rw [starts, determined found next, List.length_take_of_le within]
    rfl
  · intro d member
    rw [same, ← List.cons_append, List.getLast?_concat] at member
    rwa [← Option.some.inj member]

/-- A string cannot be the start of an unrecognised type. -/
theorem Spelled.closed {lexeme : Lexeme} {text : List Char} (spelled : Spelled lexeme text)
    (string : lexeme = .quoted ∨ lexeme = .raw) :
    ∀ c ∈ text.getLast?, c ∉ TypeExpr.unrecognisedText.toList := by
  have alone : StandsAlone lexeme text := by rcases string with rfl | rfl <;> exact spelled
  obtain ⟨-, -, -, -, -, last⟩ := alone
  intro c member
  rcases last c member with rfl | rfl <;> decide

def PieceClass.Spells : PieceClass → List Char → Prop
  | .lexeme lexeme, text => Spelled lexeme text
  | .blank, _ | .comment, _ => True

theorem cuts_spelled {c : Char} {sort : PieceClass} (cuts : Cuts c cs sort n) :
    PieceClass.Spells sort (c :: cs.take n) := by
  cases cuts with
  | blank | line | general => trivial
  | word | rune | mark => trivial
  | number _ _ _ numeric found =>
      -- numbers are of three classes, and only whole ones are laid out
      rcases numeric with rfl | rfl | rfl
      · exact accepts_of_numberExtent found
      · trivial
      · trivial
  | quoted ends =>
      exact standsAlone_of_scan (Comments.quotedEnd_determined _) (by decide) (fun _ => rfl) ends
        (quotedEnd_ends ends) (.inl rfl)
  | raw ends =>
      exact standsAlone_of_scan Comments.rawEnd_determined (by decide) (fun _ => rfl) ends
        (rawEnd_ends ends) (.inr rfl)

theorem tokenize_spelled {text : String} {tokens : List Token} {trailing : List Gap}
    (lexed : tokenize text = some (tokens, trailing)) :
    ∀ token ∈ tokens, Spelled token.lexeme token.text.toList := fun token member =>
  ((tokenize_forall PieceClass.Spells cuts_spelled lexed).1 token member).1

end Pieces

/-- The literals of a source are spelled as they should be. -/
theorem parse_spelled {text : String} {source : Source} (parsed : Source.parse? text = some source) :
    ∀ token ∈ Tree.tokensOf source.trees, Spelled token.lexeme token.text.toList := by
  obtain ⟨tokens, rest, lexed, found, -⟩ := Source.parse_eq_some_iff.1 parsed
  have recut := reads_recut (reads_iff.2 found) source_takes_nothing
  intro token member
  rcases recut.whole token (List.mem_append_left _ member) with among | isMark
  · exact tokenize_spelled lexed token among
  · rw [isMark]
    trivial

end InterfaceMocks.Preservation
