import InterfaceMocks.Layout.Format
import InterfaceMocks.Proofs.Written.Sources

/-!
Sources with unrecognised types. With a placeholder for each such type a source is read as the trees
that it was written from, with the placeholder in them, and so it is formatted: by the layout of these
trees, with the unrecognised types back in their places.
-/

namespace InterfaceMocks.Written

open InterfaceMocks.Syntax
open InterfaceMocks.Grammar
open InterfaceMocks.Placeholder

/-- Whether a token is an unrecognised type, or has nothing to do with one. -/
structure Separate (token : Token) : Prop where
  lead : Clear (Gap.textOf token.lead)
  text : token.text = TypeExpr.unrecognisedText ∨ Clear token.text

theorem Separate.guarded {token : Token} (separate : Separate token) : Guarded token where
  lead := separate.lead
  text := separate.text.imp_right .inl

/-- A declaration that is read back with the placeholder for each unrecognised type in it. -/
structure Protectable (placeholder : String) (tree : Tree) : Prop where
  topLine : TopLine (fillTree placeholder tree)
  separate : ∀ token ∈ tree.tokens, Separate token

theorem lexes_stands {tokens : List Token} {next : List Char} (lexes : Lexes tokens next)
    {token : Token} (member : token ∈ tokens) : ∃ rest, Stands token rest := by
  induction tokens with
  | nil => simp at member
  | cons first tokens ih =>
      obtain ⟨stands, later⟩ := lexes
      rcases List.mem_cons.1 member with rfl | among
      · exact ⟨_, stands⟩
      · exact ih later among

/-- What does not occur in a source does not occur in a token of it. -/
theorem not_contains_token {tokens : List Token} {trailing placeholder : String}
    (absent : Text.contains (String.join (tokens.map Token.source) ++ trailing) placeholder = false)
    {token : Token} (member : token ∈ tokens) : Text.contains token.text placeholder = false := by
  obtain ⟨before, after, split⟩ := List.append_of_mem member
  refine Text.Replace.not_occurs_of_infix ?_ absent
  rw [String.toList_append, toList_written, split, chars_append, chars_cons, Token.source,
    String.toList_append]
  exact ⟨chars before ++ (Gap.textOf token.lead).toList, chars after ++ trailing.toList, by simp⟩

section Sources

variable {name : String} (isName : IsName name) {trees : List Tree}
  {n : Nat} (each : ∀ tree ∈ trees, Protectable (candidate n) tree)
  {trailing : String} (blank : Blank trailing)

include isName

theorem fillTrees_source (trees : List Tree) (placeholder : String) :
    (package name :: trees).map (fillTree placeholder) =
      package name :: trees.map (fillTree placeholder) := by
  simp [package, clear_of_isName isName]

include each

theorem separate_tokens : ∀ token ∈ Tree.tokensOf (package name :: trees), Separate token := by
  have clause : ∀ token ∈ (package name).tokens, Separate token := by
    have clear := clear_of_isName isName
    intro token member
    simp only [package, Tree.tokens, Tree.tokensOf, tokens_keyword, tokens_name, List.append_nil,
      List.cons_append, List.nil_append, List.mem_cons, List.not_mem_nil, or_false] at member
    have blank : Clear (Gap.textOf (gap " ")) := by decide
    rcases member with rfl | rfl
    · exact ⟨by decide, .inr (by decide)⟩
    · exact ⟨blank, .inr clear⟩
  intro token member
  obtain ⟨tree, found, inside⟩ := mem_tokensOf.1 member
  rcases List.mem_cons.1 found with rfl | found
  · exact clause token inside
  · exact (each tree found).separate token inside

include blank

theorem protect_source :
    protect (candidate n) (writtenOf (package name :: trees) ++ trailing) =
      writtenOf (package name :: trees.map (fillTree (candidate n))) ++ trailing := by
  have guarded := fun token member => (separate_tokens isName each token member).guarded
  rw [writtenOf, protect_written guarded (candidate n) (clear_of_blank blank), ← tokens_fillTrees,
    fillTrees_source isName, writtenOf]

omit isName blank in
theorem filled_topLine : ∀ tree ∈ trees.map (fillTree (candidate n)), TopLine tree := by
  intro tree member
  obtain ⟨original, found, rfl⟩ := List.mem_map.1 member
  exact (each original found).topLine

theorem parse_protected :
    Source.parse? (protect (candidate n) (writtenOf (package name :: trees) ++ trailing)) =
      some ⟨package name :: trees.map (fillTree (candidate n)), gap trailing⟩ := by
  rw [protect_source isName each blank]
  exact parse_topLines isName (filled_topLine each) blank

/-- Restoring undoes the filling if no token holds the placeholder. -/
theorem restore_source
    (absent : ∀ token ∈ Tree.tokensOf (package name :: trees),
      Text.contains token.text (candidate n) = false) :
    restore (candidate n)
        (writtenOf (package name :: trees.map (fillTree (candidate n))) ++ trailing) =
      writtenOf (package name :: trees) ++ trailing := by
  have lexes : Lexes ((Tree.tokensOf (package name :: trees)).map (fill (candidate n)))
      trailing.toList := by
    rw [← tokens_fillTrees, fillTrees_source isName]
    exact topLines_lex isName (filled_topLine each) blank
  have plain (space : String) (blank : Blank space) :
      ∀ c ∈ space.toList, Text.Identifier.continues c = false := fun c found =>
    not_continues_of_isSpace (List.all_eq_true.1 blank c found)
  have unheld : ∀ token ∈ Tree.tokensOf (package name :: trees),
      Unheld (candidate n) token := by
    intro token member
    obtain ⟨rest, stands⟩ := lexes_stands lexes (List.mem_map_of_mem member)
    obtain ⟨space, lead, spaces⟩ := stands.lead
    have same : token.lead = gap space := lead
    refine ⟨?_, (separate_tokens isName each token member).text.imp_right
      fun clear => ⟨clear, absent token member⟩⟩
    rw [same, gap_text]
    exact plain space spaces
  have restored := restore_written unheld (plain trailing blank) lexes
  rw [← tokens_fillTrees, fillTrees_source isName] at restored
  exact restored

end Sources

section Formatting

variable {name : String} (isName : IsName name) {trees others : List Tree}
  (each : ∀ n, ∀ tree ∈ trees, Protectable (candidate n) tree)
  (laidEach : ∀ n, ∀ tree ∈ others, Protectable (candidate n) tree)
  (texts : (Tree.tokensOf others).map Token.text ⊆ (Tree.tokensOf trees).map Token.text)
  {trailing : String} (blank : Blank trailing)

include isName each laidEach texts blank

omit each blank in
/-- A placeholder that does not occur in a source is gone from what is made of its tokens, once that
is restored. -/
theorem restore_others {n : Nat} {end' : String} (blank' : Blank end')
    (absent : Text.contains (writtenOf (package name :: trees) ++ trailing) (candidate n) = false) :
    restore (candidate n)
        (writtenOf (package name :: others.map (fillTree (candidate n))) ++ end') =
      writtenOf (package name :: others) ++ end' := by
  refine restore_source isName (laidEach n) blank' fun token member => ?_
  have among : token.text ∈ (Tree.tokensOf (package name :: trees)).map Token.text := by
    simp only [Tree.tokensOf, List.mem_append] at member
    simp only [Tree.tokensOf, List.map_append, List.mem_append]
    exact member.imp List.mem_map_of_mem fun later => texts (List.mem_map_of_mem later)
  obtain ⟨other, found, same⟩ := List.mem_map.1 among
  exact same ▸ not_contains_token absent found

/-- A source is formatted by the layout of its trees. -/
theorem format_source
    (laid : ∀ n, Layout.file ⟨package name :: trees.map (fillTree (candidate n)), gap trailing⟩ =
      writtenOf (package name :: others.map (fillTree (candidate n))) ++ "\n") :
    format? (writtenOf (package name :: trees) ++ trailing) =
      some (writtenOf (package name :: others) ++ "\n") := by
  obtain ⟨n, chosen, absent⟩ := choose_fresh (writtenOf (package name :: trees) ++ trailing)
  rw [format?, chosen, parse_protected isName (each n) blank, Option.map_some, laid,
    restore_others isName laidEach texts blank_line absent]

end Formatting

end InterfaceMocks.Written
