/-!
Tokens and what stands between them. A source is cut into pieces without loss; white space and
comments lead the token that comes after them, so that every node of a tree can give back its text
from its tokens alone.
-/

namespace InterfaceMocks.Syntax

inductive Gap where
  | blank (text : String)
  | comment (text : String)
  deriving DecidableEq, Repr

namespace Gap

def text : Gap → String
  | blank text => text
  | comment text => text

def comment? : Gap → Option String
  | blank _ => none
  | comment text => some text

/-- A line feed in white space can end a line; one inside a comment cannot. -/
def endsLine : Gap → Bool
  | blank text => text.toList.contains '\n'
  | comment _ => false

def textOf (gaps : List Gap) : String :=
  String.join (gaps.map text)

end Gap

/-- The classes of tokens. Keywords are words, and punctuation and operators are marks. -/
inductive Lexeme where
  | word
  | int
  | float
  | imaginary
  | rune
  | quoted
  | raw
  | mark
  deriving DecidableEq, Repr

structure Token where
  lead : List Gap
  lexeme : Lexeme
  text : String
  deriving DecidableEq, Repr

namespace Token

def startsLine (token : Token) : Bool :=
  token.lead.any Gap.endsLine

def source (token : Token) : String :=
  Gap.textOf token.lead ++ token.text

def textOf : List Token → String
  | [] => ""
  | token :: rest => token.text ++ String.join (rest.map source)

end Token

end InterfaceMocks.Syntax
