/-!
Regular expressions over characters, matched by derivatives. `longest` gives the length of the
longest initial part of a text that an expression matches.
-/

namespace InterfaceMocks.Text

inductive Pattern where
  | void
  | empty
  | one (accepts : Char → Bool)
  | seq (first second : Pattern)
  | alt (first second : Pattern)
  | star (body : Pattern)

namespace Pattern

def nullable : Pattern → Bool
  | void => false
  | empty => true
  | one _ => false
  | seq first second => first.nullable && second.nullable
  | alt first second => first.nullable || second.nullable
  | star _ => true

/-- Whether the expression is seen to match nothing at all. -/
def isVoid : Pattern → Bool
  | void => true
  | empty => false
  | one _ => false
  | seq first second => first.isVoid || second.isVoid
  | alt first second => first.isVoid && second.isVoid
  | star _ => false

def andThen : Pattern → Pattern → Pattern
  | void, _ => void
  | empty, second => second
  | first, second => seq first second

def orElse : Pattern → Pattern → Pattern
  | void, second => second
  | first, void => first
  | first, second => alt first second

def derivative (c : Char) : Pattern → Pattern
  | void => void
  | empty => void
  | one accepts => if accepts c then empty else void
  | seq first second =>
      if first.nullable then ((first.derivative c).andThen second).orElse (second.derivative c)
      else (first.derivative c).andThen second
  | alt first second => (first.derivative c).orElse (second.derivative c)
  | star body => (body.derivative c).andThen (star body)

def longest (p : Pattern) : List Char → Option Nat
  | [] => if p.nullable then some 0 else none
  | c :: rest =>
      if p.isVoid then none
      else
        match longest (p.derivative c) rest with
        | some n => some (n + 1)
        | none => if p.nullable then some 0 else none

def accepts (p : Pattern) : List Char → Bool
  | [] => p.nullable
  | c :: rest => (p.derivative c).accepts rest

def optional (p : Pattern) : Pattern := alt p empty

def sequence : List Pattern → Pattern
  | [] => empty
  | [p] => p
  | p :: rest => seq p (sequence rest)

def choice : List Pattern → Pattern
  | [] => void
  | [p] => p
  | p :: rest => alt p (choice rest)

def oneOf (s : String) : Pattern := one fun c => s.toList.contains c

end Pattern

end InterfaceMocks.Text
