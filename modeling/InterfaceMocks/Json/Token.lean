import InterfaceMocks.Json.Value
import InterfaceMocks.Text.Pattern

/-!
The tokens of a JSON text: punctuation, and the values that have no parts. White space separates
tokens and has no other meaning. Strings are read with their escapes; an escape for half of a
character outside the first plane must be followed by one for the other half.
-/

namespace InterfaceMocks.Json

inductive Token where
  | openArray
  | closeArray
  | openObject
  | closeObject
  | comma
  | colon
  | scalar (value : Value)

namespace Token

open InterfaceMocks.Text (Pattern)

def isSpace (c : Char) : Bool := c = ' ' || c = '\t' || c = '\n' || c = '\r'

def punctuation? : Char → Option Token
  | '[' => some openArray
  | ']' => some closeArray
  | '\x7b' => some openObject
  | '\x7d' => some closeObject
  | ',' => some comma
  | ':' => some colon
  | _ => none

def digits : Pattern := .seq (.oneOf "0123456789") (.star (.oneOf "0123456789"))

/-- Numbers: no zero stands before another digit, and a point has digits on both sides. -/
def number : Pattern :=
  .sequence
    [.optional (.oneOf "-"),
     .alt (.oneOf "0") (.seq (.oneOf "123456789") (.star (.oneOf "0123456789"))),
     .optional (.seq (.oneOf ".") digits),
     .optional (.sequence [.oneOf "eE", .optional (.oneOf "+-"), digits])]

def bare? (text : List Char) : Option Value :=
  match String.ofList text with
  | "null" => some .null
  | "true" => some (.bool true)
  | "false" => some (.bool false)
  | other => if number.accepts text then some (.number other) else none

def hexValue? (c : Char) : Option Nat :=
  if '0' ≤ c && c ≤ '9' then some (c.toNat - 48)
  else if 'a' ≤ c && c ≤ 'f' then some (c.toNat - 87)
  else if 'A' ≤ c && c ≤ 'F' then some (c.toNat - 55)
  else none

def unit? (a b c d : Char) : Option Nat :=
  (hexValue? a).bind fun a => (hexValue? b).bind fun b => (hexValue? c).bind fun c =>
    (hexValue? d).map fun d => ((a * 16 + b) * 16 + c) * 16 + d

/-- The character that an escaped unit stands for, if it is a whole one. -/
def ofUnit? (unit : Nat) : Option Char :=
  if 0xD800 ≤ unit && unit < 0xE000 then none else some (Char.ofNat unit)

def ofHalves? (high low : Nat) : Option Char :=
  if 0xD800 ≤ high && high < 0xDC00 && 0xDC00 ≤ low && low < 0xE000 then
    some (Char.ofNat (0x10000 + (high - 0xD800) * 0x400 + (low - 0xDC00)))
  else none

def escape? : Char → Option Char
  | '\x22' => some '\x22'
  | '\\' => some '\\'
  | '/' => some '/'
  | 'b' => some '\x08'
  | 'f' => some '\x0c'
  | 'n' => some '\n'
  | 'r' => some '\r'
  | 't' => some '\t'
  | _ => none

inductive Within where
  | space
  /-- A value without quotes, of which this has been read. -/
  | bare (text : List Char)
  /-- A string, of which this has been read. -/
  | quoted (text : List Char)
  /-- The half of a character that came before, in a string. -/
  | half (text : List Char) (high : Nat)

def scan : Within → List Char → Option (List Token)
  | .space, [] => some []
  | .space, c :: rest =>
      if isSpace c then scan .space rest
      else if c = '\x22' then scan (.quoted []) rest
      else
        match punctuation? c with
        | some token => (scan .space rest).map (token :: ·)
        | none => scan (.bare [c]) rest
  | .bare text, [] => (bare? text).map fun value => [scalar value]
  | .bare text, c :: rest =>
      if isSpace c then
        (bare? text).bind fun value => (scan .space rest).map (scalar value :: ·)
      else
        match punctuation? c with
        | some token =>
            (bare? text).bind fun value => (scan .space rest).map (scalar value :: token :: ·)
        | none => scan (.bare (text ++ [c])) rest
  | .quoted text, '\\' :: 'u' :: a :: b :: c :: d :: rest =>
      (unit? a b c d).bind fun unit =>
        match ofUnit? unit with
        | some found => scan (.quoted (text ++ [found])) rest
        | none => scan (.half text unit) rest
  | .quoted text, '\\' :: c :: rest =>
      (escape? c).bind fun found => scan (.quoted (text ++ [found])) rest
  | .quoted text, c :: rest =>
      if c = '\x22' then
        (scan .space rest).map (scalar (.string (String.ofList text)) :: ·)
      else if c.toNat < 0x20 then none
      else scan (.quoted (text ++ [c])) rest
  | .half text high, '\\' :: 'u' :: a :: b :: c :: d :: rest =>
      (unit? a b c d).bind fun low =>
        (ofHalves? high low).bind fun found => scan (.quoted (text ++ [found])) rest
  | _, _ => none

end Token

end InterfaceMocks.Json
