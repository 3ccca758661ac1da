import InterfaceMocks.Syntax.Tree
import InterfaceMocks.Text.Blank

/-!
The canonical text of an expression. Names, literals, selectors, calls and parentheses are laid out
anew; any other expression keeps its source text, with white space collapsed.
-/

namespace InterfaceMocks.Layout

open InterfaceMocks.Syntax

def collapsed (tree : Tree) : String := Text.collapse tree.text

def commentTexts (counted : Bool) (tree : Tree) : List String :=
  if counted then (tree.lead.filterMap Gap.comment?).map Text.collapse else []

mutual

def expression : Tree → String
  | .leaf _ _ token => token.text
  | .node kind role children =>
      match kind with
      | .selectorExpression =>
          match expressionAt .operand children, Tree.textAt .field children with
          | some operand, some field => operand ++ "." ++ field
          | _, _ => collapsed (.node kind role children)
      | .callExpression =>
          match expressionAt .function children, argumentsAt children with
          | some function, some arguments =>
              function ++ "(" ++ ", ".intercalate arguments ++ ")"
          | _, _ => collapsed (.node kind role children)
      | .parenthesizedExpression =>
          match (expressionItems false children).head? with
          | some inner => "(" ++ inner ++ ")"
          | none => collapsed (.node kind role children)
      | _ => collapsed (.node kind role children)

def expressionAt (role : Role) : List Tree → Option String
  | [] => none
  | tree :: rest => if tree.role = role then some (expression tree) else expressionAt role rest

/-- The items of the first sibling that is a list of arguments. It is not asked whether `...` is one
of its children: the dots after a last argument stand in a tree of their own with that argument, which
is kept as it is written. -/
def argumentsAt : List Tree → Option (List String)
  | [] => none
  | .node _ role children :: rest =>
      if role = .arguments then some (expressionItems false children) else argumentsAt rest
  | .leaf _ role _ :: rest => if role = .arguments then some [] else argumentsAt rest

/-- Each item among the siblings, comments included, except those before them all. -/
def expressionItems (commented : Bool) : List Tree → List String
  | [] => []
  | tree :: rest =>
      commentTexts commented tree
        ++ (if tree.isNamed then [expression tree] else [])
        ++ expressionItems true rest

end

def expressionList (list : Tree) : String :=
  ", ".intercalate (expressionItems false list.children)

end InterfaceMocks.Layout
