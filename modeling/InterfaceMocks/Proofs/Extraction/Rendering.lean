import InterfaceMocks.Extraction.Reconstruction
import InterfaceMocks.Proofs.Extraction.RoundTrip

/-!
A type is recovered from its text. The text stands as the type of a variable in a small file, which is
read back as one declaration; so no two types without unrecognised parts have the same text.
-/

namespace InterfaceMocks

open InterfaceMocks.Syntax InterfaceMocks.Grammar

namespace Written

def variableSpec (text : String) (expr : TypeExpr) : Tree :=
  .node .varSpec .plain [name .identifier .name " " text, type .type " " expr]

def variableDeclaration (space text : String) (expr : TypeExpr) : Tree :=
  .node .varDeclaration .plain [keyword space "var", variableSpec text expr]

section Variables

variable {expr : TypeExpr} (readable : TypeReadable expr) {rest : List Token}
  (ended : rest = [] ∨ StartsLine rest) {ends : Bool} {held : List Tree}

theorem variableDeclaration_tokens (space text : String) (expr : TypeExpr) (rest : List Token) :
    (variableDeclaration space text expr).tokens ++ rest =
      token space .word "var" :: token " " .word text :: ((type .type " " expr).tokens ++ rest) := by
  simp [variableDeclaration, variableSpec]

include readable ended

/-- The type of a variable ends with its line, so that no value follows it. -/
theorem reading_varSpec (text : String) :
    reading rules (.rule .varSpec) ⟨true, ends, held⟩
        ⟨token " " .word text :: ((type .type " " expr).tokens ++ rest), false⟩ =
      .done [variableSpec text expr] (Cursor.after rest true) := by
  have typeEnds : TypeEnds true rest := by
    rcases ended with rfl | starts
    · simp [TypeEnds]
    · exact starts.typeEnds
  have closed : (Cursor.after rest true).isEnded := by
    rcases ended with rfl | starts
    · exact .inl rfl
    · exact .inr (congrArg Cursor.broken starts)
  have noComma : ∀ next more, (type .type " " expr).tokens ++ rest = next :: more →
      ¬ (next.lexeme = .mark ∧ next.text = ",") := by
    obtain ⟨lexeme, text, more, start, known⟩ := type_start .type " " expr
    rintro next more' same ⟨isMark, comma⟩
    rw [start] at same
    obtain ⟨rfl, -⟩ := List.cons.inj same
    rcases known with rfl | ⟨rfl, rfl | rfl⟩ <;> simp_all
  have alone (ends : Bool) (held : List Tree) :
      reading rules moreNames ⟨false, ends, held⟩ ⟨(type .type " " expr).tokens ++ rest, false⟩ =
        .done [] ⟨(type .type " " expr).tokens ++ rest, false⟩ :=
    reading_moreNames [] noComma
  rw [reading_rule, rules, Statements.varSpec]
  simp [alone, reading_type readable .type " " typeEnds, leaf_ended closed, variableSpec, name]

theorem reading_variableDeclaration (space text : String) :
    reading rules (.rule (.statement .top)) ⟨true, ends, held⟩
        ⟨(variableDeclaration space text expr).tokens ++ rest, false⟩ =
      .done [variableDeclaration space text expr] (Cursor.after rest true) := by
  have declared (ends : Bool) (held : List Tree) :
      reading rules (.rule .declaration) ⟨true, ends, held⟩
          ⟨(variableDeclaration space text expr).tokens ++ rest, false⟩ =
        .done [variableDeclaration space text expr] (Cursor.after rest true) := by
    rw [variableDeclaration_tokens, reading_rule, rules, Statements.declaration]
    simp [Statements.group, reading_varSpec readable ended, variableDeclaration, keyword]
  rw [variableDeclaration_tokens] at declared ⊢
  rw [reading_rule, rules, Statements.statement]
  simp [Statements.labeled, Statements.label, Place.reserved, statementWords, declared]

omit ended in
theorem variableDeclaration_topReads (space text : String) :
    TopReads (variableDeclaration space text expr) := by
  intro tail ends held ended
  have read (ends : Bool) (held : List Tree) :
      reading rules (.rule (.statement .top)) ⟨true, ends, held⟩
          ⟨(variableDeclaration space text expr).tokens ++ tail, false⟩ =
        .done [variableDeclaration space text expr] (Cursor.after tail true) :=
    reading_variableDeclaration readable ended space text
  rw [variableDeclaration_tokens] at read ⊢
  simp [Statements.package, Statements.importDeclaration, Statements.functionDeclaration,
    Statements.methodDeclaration, Statements.methodStart, read]

end Variables

/-- A file that declares a variable is cut into its tokens. -/
theorem variableFile_lexes {expr : TypeExpr} (spelled : TypeSpelled expr) {next : List Char}
    (fresh : Fresh next) :
    Lexes (Tree.tokensOf [package "p", variableDeclaration "\n\n" "x" expr]) next := by
  have typed : Lexes (type .type " " expr).tokens next := type_lexes spelled .type blank_space fresh
  have space : Apart "\n\n" := ⟨by decide, by decide⟩
  have tokens : Tree.tokensOf [package "p", variableDeclaration "\n\n" "x" expr] =
      (package "p").tokens ++ (token "\n\n" .word "var" :: token " " .word "x"
        :: (type .type " " expr).tokens) := by
    simpa using variableDeclaration_tokens "\n\n" "x" expr []
  obtain ⟨lexeme, text, more, start, -⟩ := type_start .type " " expr
  rw [tokens]
  refine package_lexes (by decide) (space.fresh _ _) (lexes_word space.blank (by decide)
    (fresh_blank _ _) (lexes_word blank_space (by decide) ?_ typed))
  rw [start]
  exact fresh_blank _ _

theorem writtenOf_variableFile (expr : TypeExpr) :
    writtenOf [package "p", variableDeclaration "\n\n" "x" expr] =
      "package p\n\nvar x " ++ expr.render := by
  apply String.toList_injective
  simp [package, variableDeclaration, variableSpec]

/-- A file that declares a variable is read back, with or without a line feed at its end. -/
theorem parse_variableFile {expr : TypeExpr} (readable : TypeReadable expr)
    (spelled : TypeSpelled expr) {trailing : String} (blank : Blank trailing) :
    Source.parse? ("package p\n\nvar x " ++ expr.render ++ trailing) =
      some ⟨[package "p", variableDeclaration "\n\n" "x" expr], gap trailing⟩ := by
  have start : ∀ c ∈ (chars (Tree.tokensOf [package "p", variableDeclaration "\n\n" "x" expr])
      ++ trailing.toList).head?, c ≠ Lexer.byteOrderMark := by
    intro c first
    obtain rfl : 'p' = c := by simpa [package, chars] using first
    decide
  have read : reading rules Statements.source ⟨false, false, []⟩
      ⟨Tree.tokensOf [package "p", variableDeclaration "\n\n" "x" expr], false⟩ =
        .done [package "p", variableDeclaration "\n\n" "x" expr] ⟨[], false⟩ := by
    apply reading_source
    · simp only [List.forall_mem_cons, List.not_mem_nil, false_implies, implies_true, and_true]
      exact ⟨package_topReads "p", variableDeclaration_topReads readable "\n\n" "x"⟩
    · simp only [List.tail_cons, List.mem_singleton, forall_eq]
      exact fun tail => startsLine_token (by decide) _ _
  rw [← writtenOf_variableFile]
  exact Source.parse_eq_some_iff.2 ⟨_, _, tokenize_written blank
    (variableFile_lexes spelled (fresh_of_blank blank)) start, read, rfl⟩

end Written

namespace Extraction

open InterfaceMocks.Written

/-- The type of the variable is found in the file. -/
theorem variableType_written (expr : TypeExpr) (trailing : List Gap) :
    variableType? ⟨[package "p", variableDeclaration "\n\n" "x" expr], trailing⟩ =
      some (type .type " " expr) := by
  have clause : (package "p").withComments = [.branch (package "p")] := rfl
  have declared : (variableDeclaration "\n\n" "x" expr).withComments =
      [.branch (variableDeclaration "\n\n" "x" expr)] := rfl
  have spec : (variableDeclaration "\n\n" "x" expr).items.head? =
      some (.branch (variableSpec "x" expr)) := rfl
  have typed : (variableSpec "x" expr).child? .type = some (type .type " " expr) := by
    simp [variableSpec, Tree.child?]
  simp [variableType?, Source.items, clause, declared, spec, typed, Item.tree?]

theorem reconstruct_render {expr : TypeExpr} (ordinary : expr.isOrdinary = true) :
    reconstruct expr.render = .ok (some expr) := by
  obtain ⟨reads, spells, known⟩ := typeStands_of_ordinary ordinary
  have parsed : Source.parse? (variableFile expr.render) = _ :=
    parse_variableFile reads spells blank_line
  rw [reconstruct, parsed]
  simp only [variableType_written, Option.map_some, typeOf_type known]

/-- A type without unrecognised parts, whose names are identifiers but no keywords and whose lengths
are numbers, is recovered from its text: the text can be read as the type of a variable, at the end of
a file or of a line, and what is read there is the type. So the text belongs to no other such type. -/
theorem typeOf_render (expr : TypeExpr) (ordinary : expr.isOrdinary = true) :
    (∃ source tree, Source.parse? ("package p\n\nvar x " ++ expr.render) = some source
        ∧ variableType? source = some tree ∧ typeOf tree = expr)
      ∧ reconstruct expr.render = .ok (some expr)
      ∧ ∀ other : TypeExpr, other.isOrdinary = true → other.render = expr.render → other = expr := by
  obtain ⟨reads, spells, known⟩ := typeStands_of_ordinary ordinary
  have parsed := parse_variableFile reads spells blank_nothing
  rw [String.append_empty] at parsed
  refine ⟨⟨_, _, parsed, variableType_written expr (gap ""), typeOf_type known .type " "⟩,
    reconstruct_render ordinary, fun other ordinary' same => ?_⟩
  have both := reconstruct_render ordinary'
  rw [same, reconstruct_render ordinary] at both
  simpa using both.symm

/-- A type with each kind of prefix, around a qualified name with other letters than those of
ASCII. -/
def nestedType : TypeExpr :=
  .pointer (.array none (.array (some "0x10") (.pointer (.qualified "http" "Запрос"))))

theorem typeOf_render_nestedType :
    nestedType.isOrdinary = true
      ∧ (∃ source tree, Source.parse? ("package p\n\nvar x " ++ nestedType.render) = some source
        ∧ variableType? source = some tree ∧ typeOf tree = nestedType)
      ∧ reconstruct nestedType.render = .ok (some nestedType)
      ∧ ∀ other : TypeExpr, other.isOrdinary = true → other.render = nestedType.render →
        other = nestedType :=
  ⟨by decide, typeOf_render nestedType (by decide)⟩

end Extraction

end InterfaceMocks
