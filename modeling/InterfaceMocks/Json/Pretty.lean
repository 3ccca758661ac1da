import InterfaceMocks.Json.Value

/-!
The written form of a value: two spaces for each level, one item or field on a line, and `[]` or `{}`
for what is empty. In strings only the double quote, the backslash and the control characters below
the space are escaped, with a letter where there is one.
-/

namespace InterfaceMocks.Json

namespace Pretty

def hexDigit (n : Nat) : Char :=
  if n < 10 then Char.ofNat (48 + n) else Char.ofNat (87 + n)

def escape (c : Char) : String :=
  if c = '\x22' then "\\\x22"
  else if c = '\\' then "\\\\"
  else if c = '\x08' then "\\b"
  else if c = '\t' then "\\t"
  else if c = '\n' then "\\n"
  else if c = '\x0c' then "\\f"
  else if c = '\r' then "\\r"
  else if c.toNat < 0x20 then
    String.ofList ['\\', 'u', '0', '0', hexDigit (c.toNat / 16), hexDigit (c.toNat % 16)]
  else String.singleton c

def quoted (s : String) : String :=
  "\x22" ++ String.join (s.toList.map escape) ++ "\x22"

def newline (depth : Nat) : String :=
  "\n" ++ String.ofList (List.replicate (2 * depth) ' ')

mutual

def render (depth : Nat) : Value → String
  | .null => "null"
  | .bool true => "true"
  | .bool false => "false"
  | .number text => text
  | .string value => quoted value
  | .array [] => "[]"
  | .array (item :: rest) =>
      "[" ++ newline (depth + 1) ++ render (depth + 1) item ++ renderItems (depth + 1) rest ++
        newline depth ++ "]"
  | .object [] => "\x7b\x7d"
  | .object ((name, value) :: rest) =>
      "\x7b" ++ newline (depth + 1) ++ quoted name ++ ": " ++ render (depth + 1) value ++
        renderFields (depth + 1) rest ++ newline depth ++ "\x7d"

def renderItems (depth : Nat) : List Value → String
  | [] => ""
  | item :: rest => "," ++ newline depth ++ render depth item ++ renderItems depth rest

def renderFields (depth : Nat) : List (String × Value) → String
  | [] => ""
  | (name, value) :: rest =>
      "," ++ newline depth ++ quoted name ++ ": " ++ render depth value ++ renderFields depth rest

end

end Pretty

def Value.pretty (value : Value) : String := Pretty.render 0 value

end InterfaceMocks.Json
