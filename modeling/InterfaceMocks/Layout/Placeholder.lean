import InterfaceMocks.Descriptor.TypeExpr
import InterfaceMocks.Text.Replace

/-!
The text of an unrecognised type is not part of the language. While a source is read, an identifier
that does not occur in it stands for that text. The usual one is as wide as the text it stands for, so
that columns stay aligned.
-/

namespace InterfaceMocks.Placeholder

open InterfaceMocks.Text

def preferred : String := "_unrecognised_"

def fiveDigits (n : Nat) : String :=
  let digits := Nat.toDigits 10 n
  String.ofList (List.replicate (5 - digits.length) '0' ++ digits)

def numbered (n : Nat) : String := "_unrecog" ++ fiveDigits n ++ "_"

def candidate : Nat → String
  | 0 => preferred
  | n + 1 => numbered n

def search (source : String) (next : Nat) : Nat → Option String
  | 0 => none
  | count + 1 =>
      if contains source (candidate next) then search source (next + 1) count
      else some (candidate next)

/-- A text has fewer places than there are candidates to look at, so one of them is free. -/
def choose (source : String) : String :=
  (search source 0 (source.length + 1)).getD preferred

/-- Puts the placeholder where the text of an unrecognised type stands. -/
def protect (placeholder source : String) : String :=
  replaceAll source TypeExpr.unrecognisedText placeholder

/-- Puts the text of an unrecognised type where the placeholder stands. -/
def restore (placeholder source : String) : String :=
  replaceAll source placeholder TypeExpr.unrecognisedText

end InterfaceMocks.Placeholder
