import InterfaceMocks.Syntax.Kind

/-!
Blank lines between what stands at the top of a file. Neighbours that open with the same keyword are
separated as in the source, by at most one blank line; all others by one blank line. A comment counts
as what it documents: the chain of comments right above a declaration takes the declaration's keyword,
and stays attached to it.
-/

namespace InterfaceMocks.Layout

open InterfaceMocks.Syntax

/-- The rows that an item takes up. Comments have no kind. -/
structure Span where
  kind : Option Kind
  first : Nat
  last : Nat
  deriving DecidableEq

namespace Span

def isComment (span : Span) : Bool := span.kind.isNone

end Span

inductive Opener where
  | package
  | import
  | type
  | func
  | var
  | const
  | comment
  | other
  deriving DecidableEq

namespace Opener

def ofKind : Option Kind → Opener
  | none => comment
  | some .packageClause => package
  | some .importDeclaration => .import
  | some .typeDeclaration => type
  | some .functionDeclaration => func
  | some .methodDeclaration => func
  | some .varDeclaration => var
  | some .constDeclaration => const
  | some _ => other

def first : List Span → Opener
  | [] => other
  | [span] => ofKind span.kind
  | span :: next :: rest =>
      if span.isComment && next.first = span.last + 1 then first (next :: rest)
      else ofKind span.kind

end Opener

def breaksBetween (before : Opener) (previous : Span) (after : Opener) (next : Span) : Nat :=
  let gap := next.first - previous.last
  if previous.isComment && gap = 1 then 1
  else
    let least := if before ≠ after || next.isComment then 2 else 1
    min (max gap least) 2

def breaks : List Span → List Nat
  | [] => []
  | [_] => []
  | previous :: next :: rest =>
      breaksBetween (Opener.first (previous :: next :: rest)) previous
          (Opener.first (next :: rest)) next
        :: breaks (next :: rest)

end InterfaceMocks.Layout
