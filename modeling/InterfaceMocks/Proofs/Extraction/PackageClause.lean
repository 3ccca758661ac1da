import InterfaceMocks.Extraction.Parsing
import InterfaceMocks.Proofs.Grammar.Derivation

/-!
A source names its package exactly if it has a package clause: a clause is made nowhere but at the top
of a source, and holds a word after the keyword.
-/

namespace InterfaceMocks.Extraction

open InterfaceMocks.Syntax InterfaceMocks.Grammar
open InterfaceMocks.Text (Identifier.isIdentifier)

def Avoids (kind : Kind) (g : Form) : Bool :=
  g.leaves.all (·.1 ≠ kind) && g.nodes.all (·.1 ≠ kind)

theorem rules_avoid_packageClause (name : Rule) : Avoids .packageClause (rules name) = true :=
  Rule.forall_of_list (p := fun name => Avoids .packageClause (rules name)) (by decide +kernel) name

/-- A tree that is a package clause holds a keyword and the name of the package. -/
def NamesPackage (tree : Tree) : Prop :=
  tree.kind = .packageClause →
    ∃ word name, tree.children = [.leaf .mark .plain word, .leaf .packageIdentifier .plain name]
      ∧ Identifier.isIdentifier name.text = true

theorem keeps_of_avoids {g : Form} (avoids : Avoids .packageClause g = true) :
    g.Keeps rules NamesPackage := by
  simp only [Avoids, Bool.and_eq_true, List.all_eq_true, decide_eq_true_eq] at avoids
  constructor
  · intro entry member role token _ _ same
    exact absurd same (avoids.1 entry member)
  · intro entry member role held trees _ _ same
    exact absurd same (avoids.2 entry member)

theorem package_keeps : Statements.package.Keeps rules NamesPackage := by
  constructor
  · intro entry member role token _ _ same
    have none : ∀ entry ∈ Statements.package.leaves, entry.1 ≠ .packageClause := by decide
    exact absurd same (none entry member)
  · intro entry member role held trees derives _ _
    have only : entry = (.packageClause, .seq (.keyword "package") (Types.anyName .packageIdentifier)) := by
      simpa [Statements.package, Gram.nodes, Gram.keyword, Types.anyName] using member
    subst only
    cases derives with
    | seq before after =>
        cases before with
        | leaf _ _ =>
            cases after with
            | leaf admits lexed => exact ⟨_, _, rfl, lexed admits.1⟩

def others : Form :=
  Gram.choice
    [Statements.importDeclaration, Statements.functionDeclaration, Statements.methodDeclaration]

theorem source_keeps : Statements.source.Keeps rules NamesPackage := by
  have avoids : Avoids .packageClause others = true := by decide +kernel
  apply (package_keeps.join (keeps_of_avoids avoids)).mono
  · simp [Statements.source, others, Gram.leaves, Gram.choice]
  · simp [Statements.source, others, Gram.nodes, Gram.choice]

theorem packageName_of_clause {text : String} {source : Source}
    (parsed : Source.parse? text = some source) {tree : Tree} (member : tree ∈ source.trees)
    (clause : tree.kind = .packageClause) :
    ∃ name, packageName? tree = some name ∧ Identifier.isIdentifier name = true := by
  have names := Source.parse_forall parsed (fun name => keeps_of_avoids (rules_avoid_packageClause name))
    source_keeps (fun token same => by simp [Tree.kind] at same)
    (fun role tree names => by cases tree <;> exact names) tree member
  obtain ⟨word, name, children, isName⟩ := names clause
  refine ⟨name.text, ?_, isName⟩
  rw [packageName?, if_pos clause]
  simp [Tree.childrenOf, children, Tree.kind, Tree.text, Tree.tokens, Token.textOf]

/-- A source names no package exactly if it has no package clause. -/
theorem package_eq_empty_iff {text : String} {source : Source}
    (parsed : Source.parse? text = some source) :
    (contents source).package = "" ↔ ∀ tree ∈ source.trees, tree.kind ≠ .packageClause := by
  constructor
  · intro unnamed tree member clause
    obtain ⟨name, found, -⟩ := packageName_of_clause parsed member clause
    have listed : name ∈ source.declarations.filterMap packageName? :=
      List.mem_filterMap.2 ⟨tree, by simp [Source.declarations, member, Tree.isNamed, clause], found⟩
    obtain ⟨last, isLast⟩ := Option.isSome_iff_exists.1
      (List.getLast?_isSome.2 (List.ne_nil_of_mem listed))
    obtain ⟨other, among, named⟩ := List.mem_filterMap.1 (List.mem_of_getLast? isLast)
    have empty : last = "" := by simpa [contents, isLast] using unnamed
    have kind : other.kind = .packageClause := by
      by_contra different
      simp [packageName?, different] at named
    obtain ⟨name', found', isName⟩ :=
      packageName_of_clause parsed (List.mem_filter.1 among).1 kind
    rw [named] at found'
    obtain rfl := Option.some.inj found'
    rw [empty] at isName
    exact absurd isName (by decide)
  · intro none
    have nothing : source.declarations.filterMap packageName? = [] := by
      refine List.filterMap_eq_nil_iff.2 fun tree member => ?_
      simp [packageName?, none tree (List.mem_filter.1 member).1]
    simp [contents, nothing]

end InterfaceMocks.Extraction
