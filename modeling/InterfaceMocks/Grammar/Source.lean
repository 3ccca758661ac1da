import InterfaceMocks.Grammar.Reading
import InterfaceMocks.Grammar.Statements
import InterfaceMocks.Syntax.Lexer
import InterfaceMocks.Syntax.Position

/-!
Whole source files. `Source.parse?` is the only entry to the grammar: a text has a tree when its
tokens can all be read. Below the root stand the declarations and statements of the file and all
comments between them, also those before the first and after the last; `placed` gives each its place.
-/

namespace InterfaceMocks.Grammar

open InterfaceMocks.Syntax

/-- A source that was read: its declarations, statements and terminators, and the gaps at its
end. -/
structure Source where
  trees : List Tree
  trailing : List Gap

/-- A declaration, statement or comment with the place of its first character and of the one after
its last. -/
structure Placed where
  item : Item
  start : Position
  stop : Position

namespace Source

/-- A depth that is enough to read so many tokens: between two tokens the grammar only descends
through a bounded number of rules. -/
def depthFor (tokens : Nat) : Nat := 400 * (tokens + 1)

def parse? (text : String) : Option Source :=
  match tokenize text with
  | none => none
  | some (tokens, trailing) =>
      match read rules (depthFor tokens.length) Statements.source ⟨false, false, []⟩
          ⟨tokens, false⟩ with
      | .done trees rest => if rest.tokens.isEmpty then some ⟨trees, trailing⟩ else none
      | .mismatch => none
      | .exhausted => none

def items (source : Source) : List Item :=
  source.trees.flatMap Tree.withComments ++
    (source.trailing.filterMap Gap.comment?).map .comment

def placeGaps : Position → List Gap → List Placed × Position
  | position, [] => ([], position)
  | position, gap :: rest =>
      let next := position.advance gap.text
      let more := placeGaps next rest
      match gap with
      | .blank _ => more
      | .comment text => (⟨.comment text, position, next⟩ :: more.1, more.2)

def placeTrees : Position → List Tree → List Placed × Position
  | position, [] => ([], position)
  | position, tree :: rest =>
      let before := placeGaps position tree.lead
      let next := before.2.advance tree.text
      let more := placeTrees next rest
      let this : List Placed := if tree.isNamed then [⟨.branch tree, before.2, next⟩] else []
      (before.1 ++ this ++ more.1, more.2)

def placed (source : Source) : List Placed :=
  let main := placeTrees .start source.trees
  main.1 ++ (placeGaps main.2 source.trailing).1

def declarations (source : Source) : List Tree :=
  source.trees.filter Tree.isNamed

end Source

end InterfaceMocks.Grammar
