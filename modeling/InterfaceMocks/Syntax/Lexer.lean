import InterfaceMocks.Syntax.Number
import InterfaceMocks.Syntax.Token
import InterfaceMocks.Text.Identifier

/-!
From characters to tokens. `extent` gives, for the character at hand, the class of the piece that
starts there and how many characters after the first belong to it; `cut` follows it through the
text, and `gather` hangs each gap on the token after it. A source that has a character no piece can
start with has no tokens.
-/

namespace InterfaceMocks.Syntax

open InterfaceMocks.Text

inductive PieceClass where
  | blank
  | comment
  | lexeme (lexeme : Lexeme)
  deriving DecidableEq

structure Piece where
  sort : PieceClass
  text : String
  deriving DecidableEq

namespace Lexer

def isSpace (c : Char) : Bool :=
  c == ' ' || c == '\t' || c == '\n' || c == '\x0b' || c == '\x0c' || c == '\r'

def isHex (c : Char) : Bool :=
  c.isDigit || ('a' ≤ c && c ≤ 'f') || ('A' ≤ c && c ≤ 'F')

def run (p : Char → Bool) (cs : List Char) : Nat :=
  (cs.takeWhile p).length

/-- Characters up to and including the end of a general comment. -/
def closing : List Char → Option Nat
  | '*' :: '/' :: _ => some 2
  | _ :: rest => (closing rest).map (· + 1)
  | [] => none

def rawEnd : List Char → Option Nat
  | [] => none
  | c :: rest => if c == '\x60' then some 1 else (rawEnd rest).map (· + 1)

def escapeDigits : Char → Nat
  | 'x' => 2
  | 'u' => 4
  | 'U' => 8
  | _ => 0

/-- What reading a quoted text expects next: the character after a backslash, or so many digits of
an escape before plain characters. -/
inductive Expect where
  | escape
  | digits (more : Nat)

/-- Characters up to and including the closing double quote. A bare line feed, or an escape without
its digits, spoils the literal. -/
def quotedEnd : Expect → List Char → Option Nat
  | _, [] => none
  | .escape, c :: rest => (quotedEnd (.digits (escapeDigits c)) rest).map (· + 1)
  | .digits 0, c :: rest =>
      if c == '\x22' then some 1
      else if c == '\n' then none
      else if c == '\\' then (quotedEnd .escape rest).map (· + 1)
      else (quotedEnd (.digits 0) rest).map (· + 1)
  | .digits (more + 1), c :: rest =>
      if isHex c then (quotedEnd (.digits more) rest).map (· + 1) else none

def isOctal (c : Char) : Bool := '0' ≤ c && c ≤ '7'

def runeEnd : List Char → Option Nat
  | '\\' :: c :: rest =>
      let size :=
        if 0 < escapeDigits c then
          if (rest.take (escapeDigits c)).all isHex then some (escapeDigits c) else none
        else if isOctal c then
          if (rest.take 2).all isOctal then some 2 else none
        else if "abfnrtv\\\x27\x22".toList.contains c then some 0
        else none
      size.bind fun n => if rest[n]? == some '\x27' then some (n + 3) else none
  | c :: '\x27' :: _ => if c == '\x27' || c == '\\' then none else some 2
  | _ => none

/-- Punctuation and operators, the longer before the shorter. -/
def marks : List String :=
  ["&^=", "<<=", ">>=", "...",
   "&^", "&&", "||", "<<", ">>", "<-", "++", "--", ":=", "==", "!=", "<=", ">=",
   "+=", "-=", "*=", "/=", "%=", "&=", "|=", "^=",
   "(", ")", "\x7b", "\x7d", "[", "]", ",", ";", ":", ".", "=", "<", ">",
   "+", "-", "*", "/", "%", "&", "|", "^", "!", "~", "\x00"]

def markExtent (cs : List Char) : Option (PieceClass × Nat) :=
  (marks.find? fun mark => mark.toList.isPrefixOf cs).map
    fun mark => (.lexeme .mark, mark.length - 1)

/-- The longer of two candidate lengths, the first when they are equal. -/
def longer (first second : Lexeme × Option Nat) : Lexeme × Option Nat :=
  match first.2, second.2 with
  | some m, some n => if m < n then second else first
  | none, some _ => second
  | _, none => first

def numberExtent (cs : List Char) : Option (PieceClass × Nat) :=
  let found :=
    longer (longer (.int, Number.int.longest cs) (.float, Number.float.longest cs))
      (.imaginary, Number.imaginary.longest cs)
  found.2.bind fun n => if n = 0 then none else some (.lexeme found.1, n - 1)

def isDigitNext : List Char → Bool
  | c :: _ => c.isDigit
  | [] => false

def extent (c : Char) (rest : List Char) : Option (PieceClass × Nat) :=
  if isSpace c then some (.blank, run isSpace rest)
  else if Identifier.opens c then some (.lexeme .word, run Identifier.continues rest)
  else if c.isDigit || (c == '.' && isDigitNext rest) then numberExtent (c :: rest)
  else
    match c, rest with
    | '/', '/' :: _ => some (.comment, run (· != '\n') rest)
    | '/', '*' :: more =>
        match closing more with
        | some n => some (.comment, n + 1)
        | none => markExtent (c :: rest)
    | '\x22', _ => (quotedEnd (.digits 0) rest).map fun n => (.lexeme .quoted, n)
    | '\x60', _ => (rawEnd rest).map fun n => (.lexeme .raw, n)
    | '\x27', _ => (runeEnd rest).map fun n => (.lexeme .rune, n)
    | _, _ => markExtent (c :: rest)

/-- The pieces of a text; their texts, joined, are the text. -/
def cut : List Char → Option (List Piece)
  | [] => some []
  | c :: rest =>
      match extent c rest with
      | none => none
      | some (sort, n) =>
          (cut (rest.drop n)).map (⟨sort, String.ofList (c :: rest.take n)⟩ :: ·)
termination_by cs => cs.length
decreasing_by
  simp only [List.length_drop, List.length_cons]
  omega

def gather : List Gap → List Piece → List Token × List Gap
  | gaps, [] => ([], gaps)
  | gaps, piece :: rest =>
      match piece.sort with
      | .blank => gather (gaps ++ [.blank piece.text]) rest
      | .comment => gather (gaps ++ [.comment piece.text]) rest
      | .lexeme lexeme =>
          let more := gather [] rest
          (⟨gaps, lexeme, piece.text⟩ :: more.1, more.2)

def byteOrderMark : Char := '\ufeff'

end Lexer

open Lexer

/-- The tokens of a source, and the gaps after the last. A byte order mark is skipped at the very
start only. -/
def tokenize (source : String) : Option (List Token × List Gap) :=
  match source.toList with
  | [] => some ([], [])
  | c :: rest =>
      if c == byteOrderMark then
        (cut rest).map (gather [.blank (String.singleton byteOrderMark)])
      else (cut (c :: rest)).map (gather [])

end InterfaceMocks.Syntax
