import InterfaceMocks.Pruning.UnusedImports
import InterfaceMocks.Proofs.Written.Lossless
import InterfaceMocks.Proofs.Grammar.Inversion
import Mathlib.Data.String.Basic

/-!
Edits as one substitution. The edits of import declarations are ranges of the text as it was read.
Applied from the last to the first, they put new texts in the place of the declarations and leave
everything between the declarations as it stands.
-/

namespace InterfaceMocks

namespace Text.Edit

theorem takeBytes_append (first second : List Char) :
    takeBytes (String.utf8Len first) (first ++ second) = first
      ∧ dropBytes (String.utf8Len first) (first ++ second) = second := by
  induction first with
  | nil =>
      cases second with
      | nil => exact ⟨rfl, rfl⟩
      | cons c rest => simp [takeBytes, dropBytes, Nat.ne_of_gt c.utf8Size_pos]
  | cons c rest ih =>
      have fits : c.utf8Size ≤ String.utf8Len rest + c.utf8Size := Nat.le_add_left _ _
      simp [takeBytes, dropBytes, String.utf8Len_cons, fits, ih]

theorem utf8ByteSize_eq (text : String) : text.utf8ByteSize = String.utf8Len text.toList := by
  rw [← String.utf8ByteSize_ofList, String.ofList_toList]

/-- An edit changes what stands in its range. -/
theorem apply_between (before inside after replacement : String) :
    (⟨before.utf8ByteSize, before.utf8ByteSize + inside.utf8ByteSize, replacement⟩ : Edit).apply
        (before ++ inside ++ after) = before ++ replacement ++ after := by
  have taken := (takeBytes_append before.toList (inside.toList ++ after.toList)).1
  have left := (takeBytes_append (before.toList ++ inside.toList) after.toList).2
  rw [String.utf8Len_append, List.append_assoc] at left
  simp only [apply, utf8ByteSize_eq, String.toList_append, List.append_assoc, taken, left,
    String.ofList_toList]

end Text.Edit

namespace Pruning

open InterfaceMocks.Syntax
open InterfaceMocks.Grammar (Source parse_top)
open InterfaceMocks.Written
open InterfaceMocks.Extraction (importSpecs)
open InterfaceMocks.Text (Edit)

def prunedText (used : List String) (tree : Tree) : String :=
  if tree.kind = .importDeclaration then
    let specs := importSpecs tree
    let kept := specs.filter (isUsed used)
    if kept.length = specs.length && !specs.isEmpty then tree.text
    else importBlock (kept.map Tree.text)
  else tree.text

def mapDeclarations (f : Tree → String) (source : Source) : String :=
  String.join (source.trees.map fun tree => Gap.textOf tree.lead ++ f tree)
    ++ Gap.textOf source.trailing

/-- The text of a source without its unused imports. -/
def withoutUnused (source : Source) : String :=
  mapDeclarations (prunedText (qualifiersOf source.trees)) source

theorem lead_text {tree : Tree} (some : tree.tokens ≠ []) :
    Gap.textOf tree.lead ++ tree.text = written tree := by
  cases tokens : tree.tokens with
  | nil => exact absurd tokens some
  | cons token rest =>
      simp [Tree.lead, Tree.text, written, tokens, Token.textOf, Token.source,
        String.append_assoc]

theorem prunedText_eq (used : List String) (tree : Tree) :
    prunedText used tree =
      (if tree.kind = .importDeclaration then replacement? used tree else none).getD tree.text := by
  unfold prunedText replacement?
  by_cases imports : tree.kind = .importDeclaration
  · simp only [imports, if_true]
    split <;> rfl
  · simp only [imports, if_false, Option.getD_none]

/-- The edits of trees, applied to their text: each tree has its text after pruning, and what
stands between the trees stays. -/
theorem applyAll_editsFrom (used : List String) {trees : List Tree}
    (some : ∀ tree ∈ trees, tree.tokens ≠ []) (before after : String) :
    Edit.applyAll (editsFrom used before.utf8ByteSize trees) (before ++ writtenOf trees ++ after) =
      before ++ String.join (trees.map fun tree => Gap.textOf tree.lead ++ prunedText used tree)
        ++ after := by
  induction trees generalizing before with
  | nil => simp [editsFrom, Edit.applyAll]
  | cons tree rest ih =>
      have whole := lead_text (some tree (by simp))
      have later := ih (fun other member => some other (by simp [member]))
        (before ++ Gap.textOf tree.lead ++ tree.text)
      rw [String.utf8ByteSize_append, String.utf8ByteSize_append] at later
      have text : before ++ writtenOf (tree :: rest) ++ after =
          before ++ Gap.textOf tree.lead ++ tree.text ++ writtenOf rest ++ after := by
        rw [writtenOf_cons, ← whole]
        simp only [String.append_assoc]
      unfold Edit.applyAll at later ⊢
      rw [text, editsFrom, List.foldr_append, later, List.map_cons, String.join_cons, prunedText_eq]
      cases (if tree.kind = .importDeclaration then replacement? used tree else none) with
      | none => simp [String.append_assoc]
      | some replacement =>
          have applied := Edit.apply_between (before ++ Gap.textOf tree.lead) tree.text
            (String.join (rest.map fun tree => Gap.textOf tree.lead ++ prunedText used tree)
              ++ after) replacement
          rw [String.utf8ByteSize_append] at applied
          simpa [String.append_assoc] using applied

theorem parse_some {text : String} {file : Source} (parsed : Source.parse? text = some file) :
    ∀ tree ∈ file.trees, tree.tokens ≠ [] := by
  intro tree member
  rcases parse_top parsed tree member with solid | ⟨token, rfl⟩
  · exact solid.tokens
  · simp

theorem parse_text {text : String} {file : Source} (parsed : Source.parse? text = some file) :
    text = mapDeclarations Tree.text file := by
  rw [(parse_lossless parsed).text, mapDeclarations, writtenOf_eq_join]
  congr 2
  exact List.map_congr_left fun tree member => (lead_text (parse_some parsed tree member)).symm

theorem applyAll_edits {text : String} {file : Source} (parsed : Source.parse? text = some file) :
    Edit.applyAll (edits file) text = withoutUnused file := by
  have applied := applyAll_editsFrom (qualifiersOf file.trees) (parse_some parsed) ""
    (Gap.textOf file.trailing)
  have size : "".utf8ByteSize = 0 := rfl
  rw [size, String.empty_append, ← (parse_lossless parsed).text] at applied
  rw [edits, applied, withoutUnused, mapDeclarations, String.empty_append]

/-- Pruning formats the source without its unused imports. -/
theorem prune_parsed {source : String} {file : Source}
    (parsed : Source.parse? (Placeholder.protect (Placeholder.choose source) source) = some file) :
    prune source =
      match format? (Placeholder.restore (Placeholder.choose source) (withoutUnused file)) with
      | none => .error .unformattable
      | some text => .ok text := by
  cases formatted : format? (Placeholder.restore (Placeholder.choose source) (withoutUnused file)) <;>
    simp only [prune, parsed, applyAll_edits parsed, formatted]

end Pruning

end InterfaceMocks
