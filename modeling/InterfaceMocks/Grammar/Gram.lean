import InterfaceMocks.Syntax.Tree

/-!
Grammars as data. An expression of the grammar reads tokens and yields trees; choice is ordered, and
repetition takes as much as it can. Two things are special to the language read here.

A line feed ends a statement only where the grammar could take a terminator, and is white space
everywhere else. `startsWithTerminator` and `nullable` are what a reader needs to know for that: they
tell it whether a terminator may come next.

Constructs that start alike share their first part: `hold subject rest` reads `subject` and lets
`held` stand for it inside `rest`. `grow step` repeats `step`, each time holding what was read so
far, which is how operators that lean to the left are read.
-/

namespace InterfaceMocks.Grammar

open InterfaceMocks.Syntax

inductive Shape where
  -- this punctuation or operator
  | mark (text : String)
  -- this punctuation or operator, where no line ends before it
  | sameLine (text : String)
  -- an operator that starts with `text`; what is left of it stays to be read
  | opening (text : String)
  -- this word
  | keyword (text : String)
  -- one of these words
  | oneOf (words : List String)
  -- any word but the reserved ones
  | name (reserved : List String)
  -- any token of the class
  | literal (lexeme : Lexeme)

inductive Gram (Rule : Type) where
  | empty
  | leaf (kind : Kind) (shape : Shape)
  | terminator
  | seq (first second : Gram Rule)
  | alt (first second : Gram Rule)
  | many (body : Gram Rule)
  | node (kind : Kind) (body : Gram Rule)
  | as (role : Role) (body : Gram Rule)
  | rule (name : Rule)
  | hold (subject rest : Gram Rule)
  | held
  | grow (step : Gram Rule)
  -- succeeds without reading where `body` could be read
  | ahead (body : Gram Rule)
  -- succeeds without reading where `body` could not be read
  | absent (body : Gram Rule)
  -- succeeds unless a line ends here and the rule could end with it
  | joined

namespace Gram

variable {Rule : Type}

/-- Whether nothing need be read. Rules always read something. -/
def nullable : Gram Rule → Bool
  | empty => true
  | leaf _ _ => false
  | terminator => false
  | seq first second => first.nullable && second.nullable
  | alt first second => first.nullable || second.nullable
  | many _ => true
  | node _ body => body.nullable
  | as _ body => body.nullable
  | rule _ => false
  | hold subject rest => subject.nullable && rest.nullable
  | held => true
  | grow _ => true
  | ahead _ => true
  | absent _ => true
  | joined => true

/-- Whether a terminator may come first. Rules never start with one. -/
def startsWithTerminator : Gram Rule → Bool
  | empty => false
  | leaf _ _ => false
  | terminator => true
  | seq first second =>
      first.startsWithTerminator || (first.nullable && second.startsWithTerminator)
  | alt first second => first.startsWithTerminator || second.startsWithTerminator
  | many body => body.startsWithTerminator
  | node _ body => body.startsWithTerminator
  | as _ body => body.startsWithTerminator
  | rule _ => false
  | hold subject rest =>
      subject.startsWithTerminator || (subject.nullable && rest.startsWithTerminator)
  | held => false
  | grow step => step.startsWithTerminator
  | ahead _ => false
  | absent _ => false
  | joined => false

/-- Whether a terminator may come before `next`, or after it when it reads nothing. -/
def terminatorBefore (next : Gram Rule) (after : Bool) : Bool :=
  next.startsWithTerminator || (next.nullable && after)

def sequence : List (Gram Rule) → Gram Rule
  | [] => empty
  | [g] => g
  | g :: rest => seq g (sequence rest)

def choice : List (Gram Rule) → Gram Rule
  | [] => empty
  | [g] => g
  | g :: rest => alt g (choice rest)

def optional (g : Gram Rule) : Gram Rule := alt g empty

def separated (separator g : Gram Rule) : Gram Rule := seq g (many (seq separator g))

/-- Reads `seed`, and then each `step` that takes up what was read before it. -/
def leftward (seed step : Gram Rule) : Gram Rule := hold seed (grow step)

def punct (text : String) : Gram Rule := leaf .mark (.mark text)

def keyword (text : String) : Gram Rule := leaf .mark (.keyword text)

end Gram

end InterfaceMocks.Grammar
