import InterfaceMocks.Proofs.Written.Protected
import Mathlib.Algebra.Ring.Nat
import Mathlib.Data.List.Infix

/-!
How often the text of an unrecognised type occurs in a written source: as often as it is the text of
a token, which is once for each slot and each lone result with such a type.
-/

namespace InterfaceMocks

namespace Text

def occurrences (s pattern : String) : Nat := s.toList.tails.countP pattern.toList.isPrefixOf

theorem contains_eq_occurrences (s pattern : String) :
    contains s pattern = decide (0 < occurrences s pattern) := by
  have starts : contains s pattern = true ↔ 0 < occurrences s pattern := by
    rw [contains, Replace.occurs_iff, occurrences, List.countP_pos_iff,
      List.infix_iff_prefix_suffix]
    simp only [List.mem_tails, List.isPrefixOf_iff_prefix]
    exact exists_congr fun _ => and_comm
  rw [Bool.eq_iff_iff, starts, decide_eq_true_iff]

namespace Replace

variable {c : Char} {more : List Char}

/-- Where the first character of the pattern does not stand, no occurrence starts. -/
theorem starts_append_of_not_mem {part : List Char} (absent : c ∉ part) (rest : List Char) :
    (part ++ rest).tails.countP (c :: more).isPrefixOf =
      rest.tails.countP (c :: more).isPrefixOf := by
  induction part with
  | nil => rfl
  | cons d part ih =>
      obtain ⟨other, later⟩ := not_or.1 (mt List.mem_cons.2 absent)
      have here : (c :: more).isPrefixOf (d :: (part ++ rest)) = false := by
        simp [List.isPrefixOf, other]
      rw [List.cons_append, List.tails_cons, List.countP_cons, here, ih later]
      rfl

/-- A pattern that cannot start inside itself. -/
theorem starts_pattern_append (absent : c ∉ more) (rest : List Char) :
    (c :: more ++ rest).tails.countP (c :: more).isPrefixOf =
      rest.tails.countP (c :: more).isPrefixOf + 1 := by
  have here : (c :: more).isPrefixOf (c :: (more ++ rest)) = true :=
    List.isPrefixOf_iff_prefix.2 ⟨rest, rfl⟩
  rw [List.cons_append, List.tails_cons, List.countP_cons, here,
    starts_append_of_not_mem absent rest, if_pos rfl]

end Replace

end Text

namespace Written

open InterfaceMocks.Syntax
open InterfaceMocks.Text

def isMarker (token : Token) : Bool := token.text = TypeExpr.unrecognisedText

theorem starts_separate {token : Token} (separate : Separate token) (rest : List Char) :
    (token.source.toList ++ rest).tails.countP TypeExpr.unrecognisedText.toList.isPrefixOf =
      rest.tails.countP TypeExpr.unrecognisedText.toList.isPrefixOf
        + (isMarker token).toNat := by
  have source : token.source.toList ++ rest =
      (Gap.textOf token.lead).toList ++ (token.text.toList ++ rest) := by
    simp [Token.source]
  rw [source, marker_start, Replace.starts_append_of_not_mem separate.lead]
  rcases separate.text with marked | clear
  · rw [isMarker, marked, marker_start, Replace.starts_pattern_append (by decide)]
    simp
  · have other : token.text ≠ TypeExpr.unrecognisedText := by
      intro marked
      exact clear (by simp [marked, marker_start])
    rw [Replace.starts_append_of_not_mem clear, isMarker, decide_eq_false other]
    rfl

/-- The text of an unrecognised type occurs where it is a token, and nowhere else. -/
theorem occurrences_written {tokens : List Token} (separate : ∀ token ∈ tokens, Separate token)
    {trailing : String} (clear : Clear trailing) :
    occurrences (String.join (tokens.map Token.source) ++ trailing) TypeExpr.unrecognisedText =
      tokens.countP isMarker := by
  rw [occurrences, String.toList_append, toList_written]
  induction tokens with
  | nil =>
      have none : (trailing.toList ++ []).tails.countP
          ('<' :: "unrecognised>".toList).isPrefixOf = 0 := by
        rw [Replace.starts_append_of_not_mem clear]
        decide
      rwa [List.append_nil, ← marker_start] at none
  | cons token tokens ih =>
      have later := ih fun other member => separate other (List.mem_cons_of_mem _ member)
      rw [chars_cons, List.append_assoc, starts_separate (separate token List.mem_cons_self), later,
        List.countP_cons]
      cases isMarker token <;> rfl

/-- A source has the text of each run of its tokens. -/
theorem contains_written {tree : Tree} {trees : List Tree}
    (inside : tree.tokens <:+: Tree.tokensOf trees) (trailing : String) :
    contains (writtenOf trees ++ trailing) (written tree) = true := by
  obtain ⟨before, after, same⟩ := inside
  refine Replace.occurs_iff.2 ⟨chars before, chars after ++ trailing.toList, ?_⟩
  rw [String.toList_append, writtenOf, written, toList_written, toList_written, ← same,
    chars_append, chars_append]
  simp

def marks (tree : Tree) : Nat := tree.tokens.countP isMarker

def marksOf (trees : List Tree) : Nat := (Tree.tokensOf trees).countP isMarker

@[simp] theorem marksOf_nil : marksOf [] = 0 := rfl

@[simp] theorem marksOf_cons (tree : Tree) (rest : List Tree) :
    marksOf (tree :: rest) = marks tree + marksOf rest := by
  simp [marksOf, marks, List.countP_append]

@[simp] theorem marksOf_append (first second : List Tree) :
    marksOf (first ++ second) = marksOf first + marksOf second := by
  simp [marksOf, Grammar.tokensOf_append, List.countP_append]

@[simp] theorem marks_node (kind : Kind) (role : Role) (children : List Tree) :
    marks (.node kind role children) = marksOf children := by
  simp [marks, marksOf]

theorem marksOf_eq_sum (trees : List Tree) : marksOf trees = (trees.map marks).sum := by
  induction trees with
  | nil => rfl
  | cons tree rest ih => rw [marksOf_cons, ih, List.map_cons, List.sum_cons]

theorem marksOf_flatten (parts : List (List Tree)) :
    marksOf parts.flatten = (parts.map marksOf).sum := by
  induction parts with
  | nil => rfl
  | cons part parts ih => rw [List.flatten_cons, marksOf_append, ih, List.map_cons, List.sum_cons]

/-- Trees that filling leaves as they are have no unrecognised type in them. -/
theorem marksOf_unfilled {trees : List Tree} (same : trees.map (fillTree "") = trees) :
    marksOf trees = 0 := by
  have tokens : (Tree.tokensOf trees).map (fill "") = Tree.tokensOf trees := by
    rw [← tokens_fillTrees, same]
  refine List.countP_eq_zero.2 fun token member marked => ?_
  have kept : fill "" token = token :=
    List.map_inj_left.1 (tokens.trans (List.map_id _).symm) token member
  have text : Placeholder.protect "" token.text = token.text := congrArg Token.text kept
  rw [of_decide_eq_true marked, protect_marker] at text
  exact absurd text (by decide)

theorem marks_unfilled {tree : Tree} (same : fillTree "" tree = tree) : marks tree = 0 := by
  have alone : marksOf [tree] = 0 := marksOf_unfilled (by rw [List.map_singleton, same])
  simpa using alone

@[simp] theorem marks_mark {text : String} (clear : Clear text) (space : String) :
    marks (mark space text) = 0 :=
  marks_unfilled (fillTree_mark "" clear space)

@[simp] theorem marks_keyword {text : String} (clear : Clear text) (space : String) :
    marks (keyword space text) = 0 :=
  marks_unfilled (fillTree_keyword "" clear space)

@[simp] theorem marks_name {text : String} (clear : Clear text) (kind : Kind) (role : Role)
    (space : String) : marks (name kind role space text) = 0 :=
  marks_unfilled (fillTree_name "" clear kind role space)

/-! Written constructs. -/

theorem marks_type {expr : TypeExpr} (clear : TypeClear expr) (role : Role) (space : String) :
    marks (type role space expr) = expr.isUnrecognised.toNat := by
  induction expr generalizing role space with
  | named text => exact marks_name clear ..
  | qualified package text => simp [type, clear.1, clear.2, TypeExpr.isUnrecognised]
  | pointer inner ih => simp [type, ih clear, TypeExpr.isUnrecognised]
  | array length element ih =>
      cases length with
      | none => simp [type, ih clear.2, TypeExpr.isUnrecognised]
      | some text =>
          have other : Clear text := clear.1 text rfl
          have number : marks (Written.length text) = 0 :=
            marks_unfilled (by simp [Written.length, fillTree, other])
          simp [type, ih clear.2, number, TypeExpr.isUnrecognised]
  | unrecognised => simp [type, marks, isMarker, TypeExpr.isUnrecognised]

theorem marks_slot {slot : Slot} (clear : slot.Clear) :
    marks slot.tree = slot.type.isUnrecognised.toNat := by
  obtain ⟨space, names, expr⟩ := slot
  have typed (space : String) := marks_type clear.type .type space
  cases names with
  | nil => simp [Slot.tree, Slot.trees, typed]
  | cons first names =>
      have start := clear.names first List.mem_cons_self
      have later := marksOf_unfilled (fillTree_names "" (fun _ => .identifier) .name
        fun text member => clear.names text (List.mem_cons_of_mem _ member))
      simp [Slot.tree, Slot.trees, typed, start, later]

theorem marksOf_commas (trees : List Tree) : marksOf (commas trees) = marksOf trees := by
  have later (rest : List Tree) :
      marksOf (rest.flatMap fun tree => [mark "" ",", tree]) = marksOf rest := by
    induction rest with
    | nil => rfl
    | cons tree rest ih => simp [ih]
  cases trees with
  | nil => rfl
  | cons first rest => simp [commas, later]

def unrecognisedSlots (slots : List Slot) : Nat :=
  (slots.map Slot.type).countP TypeExpr.isUnrecognised

theorem marks_parameters (role : Role) (space : String) {slots : List Slot}
    (clear : ∀ slot ∈ slots, slot.Clear) :
    marks (parameters role space slots) = unrecognisedSlots slots := by
  have listed : marksOf (slots.map Slot.tree) = unrecognisedSlots slots := by
    induction slots with
    | nil => rfl
    | cons slot slots ih =>
        have later := ih fun other member => clear other (List.mem_cons_of_mem _ member)
        rw [List.map_cons, marksOf_cons, marks_slot (clear slot List.mem_cons_self), later,
          unrecognisedSlots, unrecognisedSlots, List.map_cons, List.countP_cons, Nat.add_comm]
        cases slot.type.isUnrecognised <;> rfl
  simp [parameters, marksOf_commas, listed]

def Result.unrecognised : Result → Nat
  | none => 0
  | lone _ type => type.isUnrecognised.toNat
  | list _ slots => unrecognisedSlots slots

theorem marksOf_signature {signature : Signature} (clear : signature.Clear) :
    marksOf signature.trees = unrecognisedSlots signature.args + signature.result.unrecognised := by
  have args := marks_parameters .parameters "" clear.args
  have result : marksOf signature.result.trees = signature.result.unrecognised := by
    have each := clear.result
    cases same : signature.result with
    | none => rfl
    | lone space expr =>
        rw [same] at each
        simp [Result.trees, Result.unrecognised, marks_type each.2]
    | list space slots =>
        rw [same] at each
        simp [Result.trees, Result.unrecognised, marks_parameters .result space each.2]
  rw [Signature.trees, marksOf_cons, args, result]

theorem marks_field {field : Field} (clear : field.Clear) :
    marks field.tree = marksOf field.signature.trees := by
  simp [Field.tree, functionType, clear.name]

theorem marks_mockMethod {method : MockMethod} (clear : method.Clear) :
    marks method.tree = marksOf method.signature.trees := by
  have receiver := marks_parameters .receiver " " clear.self
  have body := marks_unfilled (fillTree_block "" .body method.bodySpace method.returns
    clear.receiver clear.field clear.args)
  have owner : unrecognisedSlots [⟨"", [method.receiver], .named method.owner⟩] = 0 := rfl
  simp [MockMethod.tree, receiver, body, owner, clear.name]

end Written

end InterfaceMocks
