/-!
Bytes that should be text. `flaw?` finds the first place where a sequence of bytes stops being
UTF-8; a flaw is a sequence that can never become a character, or one that ends too early.
-/

namespace InterfaceMocks.Text.Utf8

inductive Flaw where
  | invalid (index length : Nat)
  | incomplete (index : Nat)
  deriving DecidableEq

def Flaw.message : Flaw → String
  | .invalid index length =>
      s!"invalid utf-8 sequence of {length} bytes from index {index}"
  | .incomplete index => s!"incomplete utf-8 byte sequence from index {index}"

/-- The range of the second byte and the number of bytes after it, by the first byte. -/
def follow (first : UInt8) : Option (UInt8 × UInt8 × Nat) :=
  if 0xC2 ≤ first && first ≤ 0xDF then some (0x80, 0xBF, 0)
  else if first == 0xE0 then some (0xA0, 0xBF, 1)
  else if first == 0xED then some (0x80, 0x9F, 1)
  else if 0xE1 ≤ first && first ≤ 0xEF then some (0x80, 0xBF, 1)
  else if first == 0xF0 then some (0x90, 0xBF, 2)
  else if 0xF1 ≤ first && first ≤ 0xF3 then some (0x80, 0xBF, 2)
  else if first == 0xF4 then some (0x80, 0x8F, 2)
  else none

/-- How a character goes on: the range of its next byte, the number of bytes after that one, and the
index and length of what has been read of it. -/
structure Unfinished where
  low : UInt8
  high : UInt8
  more : Nat
  index : Nat
  length : Nat

/-- Here `index` is that of the next byte, and `open?` the character it continues. -/
def flawFrom : Nat → Option Unfinished → List UInt8 → Option Flaw
  | _, none, [] => none
  | _, some part, [] => some (.incomplete part.index)
  | index, none, b :: rest =>
      if b < 0x80 then flawFrom (index + 1) none rest
      else
        match follow b with
        | none => some (.invalid index 1)
        | some (low, high, more) => flawFrom (index + 1) (some ⟨low, high, more, index, 1⟩) rest
  | index, some part, b :: rest =>
      if part.low ≤ b && b ≤ part.high then
        match part.more with
        | 0 => flawFrom (index + 1) none rest
        | more + 1 =>
            flawFrom (index + 1) (some ⟨0x80, 0xBF, more, part.index, part.length + 1⟩) rest
      else some (.invalid part.index part.length)

def flaw? (bytes : ByteArray) : Option Flaw :=
  flawFrom 0 none bytes.toList

/-- The text that `bytes` encode, or the first flaw in them. -/
def decode (bytes : ByteArray) : Except Flaw String :=
  match String.fromUTF8? bytes with
  | some text => .ok text
  | none => .error ((flaw? bytes).getD (.incomplete bytes.size))

end InterfaceMocks.Text.Utf8
