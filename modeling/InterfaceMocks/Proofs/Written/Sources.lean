import InterfaceMocks.Proofs.Written.Spelling
import InterfaceMocks.Proofs.Written.Texts

/-!
Whole sources. A text that starts with a package clause and goes on with declarations, each on a line of
its own, is read back as the trees that it was written from.
-/

namespace InterfaceMocks.Written

open InterfaceMocks.Syntax InterfaceMocks.Grammar

/-- A declaration that starts a line, and that can be written and read back there. -/
structure TopLine (tree : Tree) : Prop where
  reads : TopReads tree
  starts : ∀ tail, StartsLine (tree.tokens ++ tail)
  fresh : ∀ rest next, Fresh (chars (tree.tokens ++ rest) ++ next)
  lexes : ∀ rest next, Lexes rest next → Lexes (tree.tokens ++ rest) next

theorem imports_topLine {space after : String} (apart : Apart space) (line : breaks space = true)
    (blank : Blank after) {lines : List ImportLine} (readable : ImportsReadable lines after)
    (spelled : ∀ line ∈ lines, line.Spelled) : TopLine (imports space lines after) where
  reads := imports_topReads readable space
  starts _ := startsLine_token line _ _
  fresh _ _ := apart.fresh _ _
  lexes _ _ later := imports_lexes apart.blank blank spelled later

theorem typeDeclaration_topLine {space text : String} (apart : Apart space)
    (line : breaks space = true) (isName : IsName text) {target : Tree}
    (readable : ∀ tail, Target target tail)
    (spelled : ∀ rest next, Lexes rest next → Lexes (target.tokens ++ rest) next) :
    TopLine (typeDeclaration space text target) where
  reads := typeDeclaration_topReads readable space text
  starts _ := startsLine_token line _ _
  fresh _ _ := apart.fresh _ _
  lexes rest next later := by
    obtain ⟨opening, more, start⟩ := (readable []).starts
    exact typeDeclaration_lexes apart.blank isName start (spelled rest next later)

theorem mockMethod_topLine {method : MockMethod} (apart : Apart method.space)
    (line : breaks method.space = true) (readable : method.Readable) (spelled : method.Spelled) :
    TopLine method.tree where
  reads := mockMethod_topReads readable
  starts _ := startsLine_token line _ _
  fresh _ _ := apart.fresh _ _
  lexes _ _ later := mockMethod_lexes spelled later

section Sources

variable {text : String} (isName : IsName text) {trees : List Tree}
  (each : ∀ tree ∈ trees, TopLine tree) {trailing : String} (blank : Blank trailing)

include isName each blank

/-- A package clause and such declarations are cut into their tokens. -/
theorem topLines_lex : Lexes (Tree.tokensOf (package text :: trees)) trailing.toList := by
  have later : Fresh (chars (Tree.tokensOf trees ++ []) ++ trailing.toList)
      ∧ Lexes (Tree.tokensOf trees ++ []) trailing.toList :=
    lines_lex (fresh_of_blank blank) trivial
      (fun tree member rest => (each tree member).fresh rest trailing.toList)
      (fun tree member rest _ => (each tree member).lexes rest trailing.toList)
  have whole := package_lexes isName later.1 later.2
  simpa only [Tree.tokensOf, List.append_nil] using whole

/-- The text of a package clause and such declarations is read back as these trees. -/
theorem parse_topLines :
    Source.parse? (writtenOf (package text :: trees) ++ trailing) =
      some ⟨package text :: trees, gap trailing⟩ := by
  have start : ∀ c ∈ (chars (Tree.tokensOf (package text :: trees)) ++ trailing.toList).head?,
      c ≠ Lexer.byteOrderMark := by
    intro c first
    obtain rfl : 'p' = c := by simpa [package, chars] using first
    decide
  have read : reading rules Statements.source ⟨false, false, []⟩
      ⟨Tree.tokensOf (package text :: trees), false⟩ =
        .done (package text :: trees) ⟨[], false⟩ := by
    apply reading_source
    · intro tree member
      rcases List.mem_cons.1 member with rfl | member
      · exact package_topReads text
      · exact (each tree member).reads
    · intro tree member
      exact (each tree member).starts
  exact Source.parse_eq_some_iff.2
    ⟨_, _, tokenize_written blank (topLines_lex isName each blank) start, read, rfl⟩

end Sources

end InterfaceMocks.Written
