import InterfaceMocks.Grammar.Gram

/-!
Reading tokens by a grammar. `read` follows the grammar with a bound on its depth, so that running
out of it is a third answer next to success and mismatch, and never mistaken for either. An answer
that is not `exhausted` does not depend on the bound.
-/

namespace InterfaceMocks.Grammar

open InterfaceMocks.Syntax

/-- What is left to read. `broken` says that a line ends before the first token, at a place where
the grammar takes that for a terminator. -/
structure Cursor where
  tokens : List Token
  broken : Bool

inductive Reply where
  | done (trees : List Tree) (rest : Cursor)
  | mismatch
  | exhausted

/-- What surrounds the expression at hand: whether a terminator may follow it, whether one may
follow the rule it belongs to, and the trees held for it. -/
structure Setting where
  follows : Bool
  ends : Bool
  held : List Tree

namespace Shape

def take? (shape : Shape) : List Token → Option (Token × List Token)
  | [] => none
  | token :: rest =>
      match shape with
      | mark text =>
          if token.lexeme = .mark ∧ token.text = text then some (token, rest) else none
      | sameLine text =>
          if token.lexeme = .mark ∧ token.text = text ∧ !token.startsLine then some (token, rest)
          else none
      | opening text =>
          if token.lexeme = .mark ∧ text.toList.isPrefixOf token.text.toList then
            if token.text = text then some (token, rest)
            else
              some (⟨token.lead, .mark, text⟩,
                ⟨[], .mark, String.ofList (token.text.toList.drop text.length)⟩ :: rest)
          else none
      | keyword text =>
          if token.lexeme = .word ∧ token.text = text then some (token, rest) else none
      | oneOf words =>
          if token.lexeme = .word ∧ token.text ∈ words then some (token, rest) else none
      | name reserved =>
          if token.lexeme = .word ∧ token.text ∉ reserved then some (token, rest) else none
      | literal lexeme =>
          if token.lexeme = lexeme then some (token, rest) else none

end Shape

namespace Cursor

/-- The input after a token, where a terminator may or may not come next. -/
def after (tokens : List Token) (follows : Bool) : Cursor :=
  ⟨tokens, follows && (tokens.head?.map Token.startsLine).getD false⟩

def atLineStart (cursor : Cursor) : Bool :=
  (cursor.tokens.head?.map Token.startsLine).getD false

def leaf (kind : Kind) (shape : Shape) (follows : Bool) (cursor : Cursor) : Reply :=
  if cursor.broken then .mismatch
  else
    match shape.take? cursor.tokens with
    | none => .mismatch
    | some (token, rest) => .done [.leaf kind .plain token] (after rest follows)

def isTerminator (token : Token) : Bool :=
  token.lexeme = .mark && (token.text = ";" || token.text = "\x00")

/-- A terminator is the end of a line, a semicolon, a null character or the end of the source. -/
def terminator (follows : Bool) (cursor : Cursor) : Reply :=
  if cursor.broken then .done [] { cursor with broken := false }
  else
    match cursor.tokens with
    | [] => .done [] cursor
    | token :: rest =>
        if isTerminator token then .done [.leaf .mark .plain token] (after rest follows)
        else .mismatch

end Cursor

namespace Reply

def andThen (reply : Reply) (next : List Tree → Cursor → Reply) : Reply :=
  match reply with
  | done trees rest => next trees rest
  | mismatch => mismatch
  | exhausted => exhausted

def orElse (reply : Reply) (other : Unit → Reply) : Reply :=
  match reply with
  | done trees rest => done trees rest
  | mismatch => other ()
  | exhausted => exhausted

def after (trees : List Tree) (reply : Reply) : Reply :=
  match reply with
  | done more rest => done (trees ++ more) rest
  | mismatch => mismatch
  | exhausted => exhausted

def map (f : List Tree → List Tree) (reply : Reply) : Reply :=
  match reply with
  | done trees rest => done (f trees) rest
  | mismatch => mismatch
  | exhausted => exhausted

end Reply

variable {Rule : Type}

def read (rules : Rule → Gram Rule) : Nat → Gram Rule → Setting → Cursor → Reply
  | 0, _, _, _ => .exhausted
  | depth + 1, g, setting, cursor =>
      match g with
      | .empty => .done [] cursor
      | .leaf kind shape => cursor.leaf kind shape setting.follows
      | .terminator => cursor.terminator setting.follows
      | .seq first second =>
          (read rules depth first
              { setting with follows := second.terminatorBefore setting.follows } cursor).andThen
            fun trees rest => (read rules depth second setting rest).after trees
      | .alt first second =>
          (read rules depth first setting cursor).orElse
            fun _ => read rules depth second setting cursor
      | .many body =>
          match read rules depth body
              { setting with follows := (Gram.many body).terminatorBefore setting.follows }
              cursor with
          | .done trees rest => (read rules depth (.many body) setting rest).after trees
          | .mismatch => .done [] cursor
          | .exhausted => .exhausted
      | .node kind body =>
          (read rules depth body setting cursor).map fun trees => [.node kind .plain trees]
      | .as role body =>
          (read rules depth body setting cursor).map fun trees => trees.map (Tree.withRole role)
      | .rule name =>
          read rules depth (rules name) ⟨setting.follows, setting.follows, []⟩ cursor
      | .hold subject rest =>
          (read rules depth subject
              { setting with follows := rest.terminatorBefore setting.follows } cursor).andThen
            fun trees next => read rules depth rest { setting with held := trees } next
      | .held => .done setting.held cursor
      | .grow step =>
          match read rules depth step
              { setting with follows := (Gram.grow step).terminatorBefore setting.follows }
              cursor with
          | .done trees rest => read rules depth (.grow step) { setting with held := trees } rest
          | .mismatch => .done setting.held cursor
          | .exhausted => .exhausted
      | .ahead body =>
          match read rules depth body setting cursor with
          | .done _ _ => .done [] cursor
          | .mismatch => .mismatch
          | .exhausted => .exhausted
      | .absent body =>
          match read rules depth body setting cursor with
          | .done _ _ => .mismatch
          | .mismatch => .done [] cursor
          | .exhausted => .exhausted
      | .joined =>
          if setting.ends && cursor.atLineStart then .mismatch else .done [] cursor

end InterfaceMocks.Grammar
