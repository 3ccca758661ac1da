import InterfaceMocks.Syntax.Kind
import InterfaceMocks.Syntax.Token

/-!
Lossless syntax trees. Every token of the source is a leaf, also punctuation, and the gaps stay with
the tokens. A comment has no node of its own: it belongs to the smallest node that has a token before
and a token after it, and is read off the gaps between the children of that node.
-/

namespace InterfaceMocks.Syntax

inductive Tree where
  | leaf (kind : Kind) (role : Role) (token : Token)
  | node (kind : Kind) (role : Role) (children : List Tree)

/-- What stands directly below a node: a named subtree, or a comment. -/
inductive Item where
  | comment (text : String)
  | branch (tree : Tree)

namespace Tree

def kind : Tree → Kind
  | leaf kind _ _ => kind
  | node kind _ _ => kind

def role : Tree → Role
  | leaf _ role _ => role
  | node _ role _ => role

def children : Tree → List Tree
  | leaf _ _ _ => []
  | node _ _ children => children

def withRole (role : Role) : Tree → Tree
  | leaf kind _ token => leaf kind role token
  | node kind _ children => node kind role children

def isNamed (tree : Tree) : Bool := tree.kind != .mark

mutual

def tokens : Tree → List Token
  | leaf _ _ token => [token]
  | node _ _ children => tokensOf children

def tokensOf : List Tree → List Token
  | [] => []
  | tree :: rest => tree.tokens ++ tokensOf rest

end

def text (tree : Tree) : String := Token.textOf tree.tokens

def lead (tree : Tree) : List Gap :=
  match tree.tokens with
  | [] => []
  | token :: _ => token.lead

def commentsBefore (tree : Tree) : List Item :=
  (tree.lead.filterMap Gap.comment?).map .comment

/-- The tree, with the comments before it; punctuation counts only for its comments. -/
def withComments (tree : Tree) : List Item :=
  tree.commentsBefore ++ (if tree.isNamed then [.branch tree] else [])

/-- The items of a list of siblings, less the comments before the first. -/
def itemsOf : List Tree → List Item
  | [] => []
  | first :: rest => (if first.isNamed then [.branch first] else []) ++ rest.flatMap withComments

/-- What stands directly below the tree: its named children and the comments between its
children. -/
def items (tree : Tree) : List Item := itemsOf tree.children

def child? (role : Role) (tree : Tree) : Option Tree :=
  tree.children.find? fun child => child.role = role

def textAt (role : Role) (siblings : List Tree) : Option String :=
  (siblings.find? fun tree => tree.role = role).map text

def childrenWith (role : Role) (tree : Tree) : List Tree :=
  tree.children.filter fun child => child.role = role

def childrenOf (kind : Kind) (tree : Tree) : List Tree :=
  tree.children.filter fun child => child.kind = kind

end Tree

namespace Item

def text : Item → String
  | comment text => text
  | branch tree => tree.text

def isComment : Item → Bool
  | comment _ => true
  | branch _ => false

def tree? : Item → Option Tree
  | comment _ => none
  | branch tree => some tree

def kind? : Item → Option Kind
  | comment _ => none
  | branch tree => some tree.kind

end Item

end InterfaceMocks.Syntax
