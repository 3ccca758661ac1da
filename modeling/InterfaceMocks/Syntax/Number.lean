import InterfaceMocks.Text.Pattern

/-!
Number literals. Digits may be separated by single underscores, and each class of literal is a
regular expression; a number token is the longest text that one of the classes matches.
-/

namespace InterfaceMocks.Syntax.Number

open InterfaceMocks.Text
open InterfaceMocks.Text.Pattern

def letter (s : String) : Pattern := oneOf s

def bar : Pattern := optional (letter "_")

def separated (digit : Pattern) : Pattern := seq digit (star (seq bar digit))

def hexDigit : Pattern := letter "0123456789abcdefABCDEF"
def octalDigit : Pattern := letter "01234567"
def decimalDigit : Pattern := letter "0123456789"
def binaryDigit : Pattern := letter "01"

def hexDigits : Pattern := separated hexDigit
def octalDigits : Pattern := separated octalDigit
def decimalDigits : Pattern := separated decimalDigit
def binaryDigits : Pattern := separated binaryDigit

def hexInt : Pattern := sequence [letter "0", letter "xX", bar, hexDigits]
def octalInt : Pattern := sequence [letter "0", optional (letter "oO"), bar, octalDigits]
def decimalInt : Pattern :=
  alt (letter "0") (seq (letter "123456789") (optional (seq bar decimalDigits)))
def binaryInt : Pattern := sequence [letter "0", letter "bB", bar, binaryDigits]

def int : Pattern := choice [binaryInt, decimalInt, octalInt, hexInt]

def exponent (mark : String) : Pattern :=
  sequence [letter mark, optional (letter "+-"), decimalDigits]

def decimalFloat : Pattern :=
  choice
    [sequence [decimalDigits, letter ".", optional decimalDigits, optional (exponent "eE")],
     seq decimalDigits (exponent "eE"),
     sequence [letter ".", decimalDigits, optional (exponent "eE")]]

def hexMantissa : Pattern :=
  choice
    [sequence [bar, hexDigits, letter ".", optional hexDigits],
     seq bar hexDigits,
     seq (letter ".") hexDigits]

def hexFloat : Pattern := sequence [letter "0", letter "xX", hexMantissa, exponent "pP"]

def float : Pattern := alt decimalFloat hexFloat

def imaginary : Pattern := seq (choice [decimalDigits, int, float]) (letter "i")

def isInt (s : String) : Bool := int.accepts s.toList

end InterfaceMocks.Syntax.Number
