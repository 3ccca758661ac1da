/-!
White space by the Unicode property `White_Space`, and the views of a text that depend on it: its
words, the text with blank runs collapsed, the text without blank ends, and its first line.
-/

namespace InterfaceMocks.Text

def isBlank (c : Char) : Bool :=
  let n := c.toNat
  (0x09 ≤ n && n ≤ 0x0D) || n == 0x20 || n == 0x85 || n == 0xA0 || n == 0x1680 ||
    (0x2000 ≤ n && n ≤ 0x200A) || n == 0x2028 || n == 0x2029 || n == 0x202F || n == 0x205F ||
    n == 0x3000

namespace Words

/-- Puts `c` in front of the first word when that word goes on, else makes it a word of its own. -/
def attach (c : Char) (goesOn : Bool) (rest : List (List Char)) : List (List Char) :=
  match goesOn, rest with
  | true, word :: more => (c :: word) :: more
  | _, more => [c] :: more

def opensWord : List Char → Bool
  | [] => false
  | c :: _ => !isBlank c

/-- The maximal runs of characters that are not blank, in order. -/
def split : List Char → List (List Char)
  | [] => []
  | c :: rest => if isBlank c then split rest else attach c (opensWord rest) (split rest)

end Words

def words (s : String) : List String :=
  (Words.split s.toList).map String.ofList

/-- The text `s` with every run of white space made one space, and none at either end. -/
def collapse (s : String) : String :=
  " ".intercalate (words s)

def trimEndChars (cs : List Char) : List Char :=
  (cs.reverse.dropWhile isBlank).reverse

def trimEnd (s : String) : String :=
  String.ofList (trimEndChars s.toList)

def trim (s : String) : String :=
  String.ofList (trimEndChars (s.toList.dropWhile isBlank))

def firstLine (s : String) : String :=
  String.ofList (s.toList.takeWhile (· != '\n'))

end InterfaceMocks.Text
