import InterfaceMocks.Proofs.Preservation.DeclarationLayouts
import InterfaceMocks.Proofs.Written.Filling

/-!
What is laid out has nothing in it that may be left out, and it is made of the constructs that are
laid out anew, in none of the forms that change: it is of the same class as what it was laid out for.
-/

namespace InterfaceMocks.Preservation

open InterfaceMocks.Syntax InterfaceMocks.Grammar InterfaceMocks.Written
open InterfaceMocks.Layout (parameterTrees isLoneType unspaced unspacedAll_eq)

/-- Trees of some kinds that settle as they are. -/
structure Tidy (context : List Kind) (trees : List Tree) : Prop where
  kinds : ∀ tree ∈ trees, tree.isNamed = true → tree.kind ∈ context
  built : ∀ tree ∈ trees, everywhere isBuilt tree = true
  spared : ∀ tree ∈ trees, everywhere isSpared tree = true
  kept : ∀ tail, settledAll (trees ++ tail) = trees.map unspaced ++ settledAll tail
  clear : ∀ token ∈ Tree.tokensOf trees, token.lexeme ∉ [.quoted, .raw] → Clear token.text

section Tidy

variable {context wider : List Kind} {trees more : List Tree} {tree : Tree} {kind : Kind} {role : Role}

theorem tidy_nil : Tidy context [] := ⟨by simp, by simp, by simp, by simp, by simp⟩

theorem Tidy.append (first : Tidy context trees) (second : Tidy context more) :
    Tidy context (trees ++ more) where
  kinds tree member := (List.mem_append.1 member).elim (first.kinds tree) (second.kinds tree)
  built tree member := (List.mem_append.1 member).elim (first.built tree) (second.built tree)
  spared tree member := (List.mem_append.1 member).elim (first.spared tree) (second.spared tree)
  kept tail := by rw [List.append_assoc, first.kept, second.kept, List.map_append, List.append_assoc]
  clear token member := by
    rw [tokensOf_append, List.mem_append] at member
    exact member.elim (first.clear token) (second.clear token)

theorem Tidy.cons (first : Tidy context [tree]) (rest : Tidy context more) :
    Tidy context (tree :: more) := first.append rest

theorem Tidy.mono (tidy : Tidy context trees) (within : context ⊆ wider) : Tidy wider trees where
  kinds tree member named := within (tidy.kinds tree member named)
  built := tidy.built
  spared := tidy.spared
  kept := tidy.kept
  clear := tidy.clear

theorem Tidy.settled_eq (tidy : Tidy context [tree]) (firm : Firm tree) :
    settled tree = unspaced tree := by
  have kept := tidy.kept []
  rw [List.append_nil, firm.settled] at kept
  exact (List.cons.inj kept).1

/-- The marks and the keywords that are laid out, but for commas. -/
def fixedTexts : List String :=
  ["(", ")", "[", "]", "\x7b", "\x7d", "*", ".", "...", "=", "package", "import", "type", "struct", "func",
   "return"]

theorem tidy_fixed {space text : String} (fixed : text ∈ fixedTexts) (lexeme : Lexeme) :
    Tidy context [.leaf .mark .plain (token space lexeme text)] where
  kinds := by simp [Tree.isNamed, Tree.kind]
  built := by simp [everywhere]
  spared := by simp [everywhere]
  kept tail := by
    have firm : ∀ text ∈ fixedTexts, text ∉ [";", "\x00", ","] := by decide
    exact settledAll_punct (firm text fixed)
  clear := by
    have clear : ∀ text ∈ fixedTexts, Clear text := by decide
    simpa [Tree.tokens] using fun _ _ => clear text fixed

theorem tidy_mark {space text : String} (fixed : text ∈ fixedTexts) :
    Tidy context [mark space text] := tidy_fixed fixed .mark

theorem tidy_keyword {space text : String} (fixed : text ∈ fixedTexts) :
    Tidy context [keyword space text] := tidy_fixed fixed .word

theorem tidy_leaf {token : Token} (known : kind ∈ context ∧ kind ∉ [.mark, .parameterList])
    (clear : token.lexeme ∉ [.quoted, .raw] → Clear token.text) :
    Tidy context [.leaf kind role token] where
  kinds := by simpa [Tree.kind] using fun _ => known.1
  built := by simp [everywhere]
  spared := by simp [everywhere]
  kept tail := by
    have solid : kind ≠ .mark ∧ kind ≠ .parameterList := by simpa using known.2
    exact (firm_leaf solid.1 solid.2).settled
  clear := by simpa [Tree.tokens] using clear

theorem tidy_name {space text : String} (known : kind ∈ context ∧ kind ∉ [.mark, .parameterList])
    (isName : IsName text) : Tidy context [Written.name kind role space text] :=
  tidy_leaf known fun _ => clear_of_isName isName

theorem tidy_comma (named : tree.isNamed = true) (rest : Tidy context (tree :: more)) :
    Tidy context (mark "" "," :: tree :: more) where
  kinds := List.forall_mem_cons.2 ⟨by simp [mark, Tree.isNamed, Tree.kind], rest.kinds⟩
  built := List.forall_mem_cons.2 ⟨rfl, rest.built⟩
  spared := List.forall_mem_cons.2 ⟨rfl, rest.spared⟩
  kept tail := by
    have comma : settledAll (mark "" "," :: tree :: (more ++ tail)) =
        settledComma :: settledAll (tree :: (more ++ tail)) := settledAll_comma named
    have kept := rest.kept tail
    rw [List.cons_append] at kept
    rw [List.cons_append, List.cons_append, comma, kept]
    rfl
  clear := by
    have clear := rest.clear
    simp only [Tree.tokensOf, List.mem_append, tokens_mark, List.mem_cons, List.not_mem_nil, or_false]
      at clear ⊢
    rintro token (rfl | member) other
    · exact clear_marks.2.2.2.2.2.2.2.1
    · exact clear token member other

theorem tidy_node (children : Tidy (constituents kind) trees) (known : kind ∈ context)
    (solid : kind ≠ .mark) (spared : isSpared kind trees = true)
    (whole : freed (.node kind role (trees.map unspaced)) = [.node kind role (trees.map unspaced)]) :
    Tidy context [.node kind role trees] where
  kinds := by simpa [Tree.kind] using fun _ => known
  built := by
    have own : isBuilt kind trees = true := by
      refine List.all_eq_true.2 fun child member => ?_
      cases named : child.isNamed with
      | false => rfl
      | true => simpa using children.kinds child member named
    simpa [everywhere_node, own] using children.built
  spared := by simpa [everywhere_node, spared] using children.spared
  kept tail := by
    have named : (Syntax.Tree.node kind role trees).isNamed = true := by
      simpa [Tree.isNamed, Tree.kind] using solid
    have kept := children.kept []
    rw [List.append_nil, settledAll, List.append_nil] at kept
    rw [List.singleton_append, settledAll_named named, settled, kept, whole, List.map_singleton,
      unspaced, unspacedAll_eq]
  clear := by simpa using children.clear

/-- Any construct but a list of results. -/
theorem tidy_construct (children : Tidy (constituents kind) trees)
    (known : kind ∈ context ∧ kind ∉ [.mark, .parameterList]) (spared : isSpared kind trees = true) :
    Tidy context [.node kind role trees] := by
  have solid : kind ≠ .mark ∧ kind ≠ .parameterList := by simpa using known.2
  exact tidy_node children known.1 solid.1 spared (by simp [freed, Tree.kind, solid.2])

end Tidy

/-! Types. -/

section Types

variable {context : List Kind} {kind : Kind} {role : Role} {indent : Nat} {space : String}
  {parameters : Parameters}

theorem clear_int {text : String} (isInt : Number.isInt text = true) : Clear text :=
  Text.Pattern.not_mem_of_avoids (by decide +kernel) isInt

theorem tidy_names {first : String} {more : List String} (isName : ∀ text ∈ first :: more, IsName text)
    (known : kind ∈ context ∧ kind ∉ [.mark, .parameterList]) (space : String) :
    Tidy context (nameTrees kind space first more) := by
  induction more generalizing first space with
  | nil => exact tidy_name known (isName first (by simp))
  | cons second more ih =>
      simp only [List.forall_mem_cons] at isName
      have later := ih (List.forall_mem_cons.2 isName.2) " "
      have solid : kind ≠ .mark := by simpa using fun same => known.2 (by simp [same])
      rw [nameTrees_cons]
      exact (tidy_name known isName.1).cons
        (tidy_comma (by simpa [Written.name, Tree.isNamed, Tree.kind] using solid) later)

theorem tidy_quote (quote : Quote) (known : stringKinds ⊆ context) :
    Tidy context [quote.tree role space] := by
  unfold Quote.tree
  split
  · exact tidy_leaf ⟨known (by decide), by decide⟩ (by simp)
  · exact tidy_leaf ⟨known (by decide), by decide⟩ (by simp)

theorem tidy_tag (tag : Option Quote) (known : stringKinds ⊆ context) :
    Tidy context (tagTrees tag) := by
  cases tag with
  | none => exact tidy_nil
  | some quote => exact tidy_quote quote known

/-! Parameters. -/

theorem Label.tidy {label : Label} {type : String → Tree} (sound : label.Sound)
    (typed : ∀ space, Tidy typeKinds [type space]) (space : String) :
    Tidy (constituents .parameterList) [label.tree space type] := by
  have typed (space : String) : Tidy (.identifier :: typeKinds) [type space] :=
    (typed space).mono (by simp)
  have dots (space : String) : Tidy (.identifier :: typeKinds) [mark space "..."] :=
    tidy_mark (by decide)
  obtain ⟨variadic, names⟩ := label
  cases names with
  | nil =>
      cases variadic with
      | false => exact tidy_construct (typed _) (by decide) rfl
      | true => exact tidy_construct ((dots _).cons (typed _)) (by decide) rfl
  | cons first more =>
      have names := @tidy_names (.identifier :: typeKinds) .identifier first more sound.names
        (by decide) space
      cases variadic with
      | false => exact tidy_construct (names.append (typed _)) (by decide) rfl
      | true =>
          exact tidy_construct (names.append ((dots _).cons (typed _))) (by decide) rfl

@[simp] theorem Label.isParameter_tree (label : Label) (space : String) (type : String → Tree) :
    Layout.isParameter (label.tree space type) = true := by
  obtain ⟨variadic, _ | _⟩ := label <;> cases variadic <;> rfl

theorem parameterTrees_cons (label : Label) (type : Ty) (rest : Parameters) (indent : Nat) :
    parameterTrees ((Parameters.cons label type rest).trees indent) =
      label.tree "" (fun space => type.tree .type space indent) :: parameterTrees (rest.more indent) := by
  simp [parameterTrees, Parameters.trees]

theorem parameterTrees_more (label : Label) (type : Ty) (rest : Parameters) (indent : Nat) :
    parameterTrees ((Parameters.cons label type rest).more indent) =
      label.tree " " (fun space => type.tree .type space indent) :: parameterTrees (rest.more indent) := by
  have comma : Layout.isParameter (mark "" ",") = false := rfl
  simp [parameterTrees, Parameters.more, comma]

theorem parameterTrees_list (parameters : Parameters) (space : String) (indent : Nat) :
    parameterTrees (mark space "(" :: (parameters.trees indent ++ [mark "" ")"])) =
      parameterTrees (parameters.trees indent) := by
  simp [parameterTrees, Layout.isParameter, Tree.kind, mark]

theorem Label.eq_of_isUnnamed {label : Label} {type : String → Tree}
    (unnamed : isUnnamed (label.tree space type) = true) : label = ⟨false, []⟩ := by
  obtain ⟨variadic, names⟩ := label
  cases variadic with
  | true => cases names <;> simp [isUnnamed, Label.tree, Tree.kind] at unnamed
  | false =>
      cases names with
      | nil => rfl
      | cons first more =>
          simp [isUnnamed, Label.tree, nameTrees, Written.name, Tree.child?, Tree.role, Tree.children]
            at unnamed

theorem eq_of_isLoneType
    (lone : isLoneType (mark space "(" :: (parameters.trees indent ++ [mark "" ")"])) = true) :
    ∃ type, parameters = .cons ⟨false, []⟩ type .nil := by
  rw [isLoneType, parameterTrees_list] at lone
  cases parameters with
  | nil => simp [Parameters.trees, parameterTrees] at lone
  | cons label type rest =>
      rw [parameterTrees_cons] at lone
      cases rest with
      | nil =>
          obtain rfl := Label.eq_of_isUnnamed lone
          exact ⟨type, rfl⟩
      | cons => simp [parameterTrees_more] at lone

theorem isEmpty_list (needed : parameters.needsList = true) :
    (parameterTrees (mark space "(" :: (parameters.trees indent ++ [mark "" ")"]))).isEmpty = false := by
  rw [parameterTrees_list]
  cases parameters with
  | nil => simp [Parameters.needsList] at needed
  | cons => simp [parameterTrees_cons]

/-- A type that looks slim where it is laid out is slim: its results would not be in parentheses
otherwise. -/
theorem Ty.isSlim_tree {type : Ty} (sound : type.Sound)
    (slim : Preservation.isSlim (type.tree role space indent) = true) : type.isSlim = true := by
  cases type with
  | function parameters result =>
      have list : ((Ty.function parameters result).tree role space indent).child? .parameters =
          some (listTree .parameters "" (parameters.trees indent)) := by
        simp [Tree.child?, Ty.tree, keyword, listTree]
      have results : ((Ty.function parameters result).tree role space indent).child? .result =
          (result.trees indent).head? := by
        cases result <;> simp [Tree.child?, Ty.tree, keyword, listTree, Result.trees]
      simp only [Preservation.isSlim, list, results, Bool.and_eq_true, Option.any_some] at slim
      obtain ⟨⟨-, lone⟩, none⟩ := slim
      obtain ⟨type, rfl⟩ := eq_of_isLoneType lone
      cases result with
      | none => rfl
      | lone other =>
          simp only [Result.trees, List.head?_cons, Option.all_some, Bool.and_eq_true,
            decide_eq_true_eq] at none
          have kind : (other.tree .result " " indent).kind ∈ typeKinds := other.tree_kind " "
          rw [none.1] at kind
          simp [typeKinds] at kind
      | list others =>
          have some := @isEmpty_list indent " " _ sound.2.2
          simp [Result.trees, listTree, some] at none
  | _ => simp [Preservation.isSlim, Ty.tree, Written.name, structTree, Tree.kind] at slim

theorem isBareName_of_isBare {label : Label} {type : Ty}
    (bare : isBare (label.tree space fun space => type.tree .type space indent) = true) :
    isBareName label type = true := by
  simp only [isBare, Bool.and_eq_true] at bare
  obtain ⟨unnamed, word⟩ := bare
  obtain rfl := Label.eq_of_isUnnamed unnamed
  cases type with
  | name => rfl
  | _ =>
      simp [Label.tree, Tree.child?, Ty.tree, structTree, Tree.kind, Tree.role, Tree.children] at word

/-- A word alone among parameters is never before what it would be read with. -/
theorem Parameters.isSteady_more (parameters : Parameters) (sound : parameters.Sound) {first : Tree}
    (apart : isBare first = true → parameters.sharesType = false) :
    isSteady (first :: parameterTrees (parameters.more indent)) = true := by
  cases parameters with
  | nil => rfl
  | cons label type rest =>
      have later : isSteady (label.tree " " (fun space => type.tree .type space indent)
          :: parameterTrees (rest.more indent)) = true :=
        rest.isSteady_more sound.2.2.2 fun bare => sound.2.2.1 (isBareName_of_isBare bare)
      rw [parameterTrees_more, isSteady, later, Bool.and_true, Bool.not_eq_true', Bool.eq_false_iff]
      intro shared
      simp only [Bool.and_eq_true] at shared
      obtain ⟨⟨bare, unnamed⟩, slim⟩ := shared
      obtain rfl := Label.eq_of_isUnnamed unnamed
      have slim : type.isSlim = true := Ty.isSlim_tree sound.2.1 (by
        simpa [Label.tree, Tree.child?] using slim)
      have shares := apart bare
      unfold Ty.isSlim at slim
      split at slim
      · simp [sharesType] at shares
      · simp at slim

theorem isSteady_list (sound : parameters.Sound) :
    isSteady (parameterTrees (mark space "(" :: (parameters.trees indent ++ [mark "" ")"]))) = true := by
  rw [parameterTrees_list]
  cases parameters with
  | nil => rfl
  | cons label type rest =>
      rw [parameterTrees_cons]
      exact rest.isSteady_more sound.2.2.2 fun bare => sound.2.2.1 (isBareName_of_isBare bare)

theorem parameterTrees_unspaced (trees : List Tree) :
    parameterTrees (trees.map unspaced) = (parameterTrees trees).map unspaced := by
  have same : Layout.isParameter ∘ unspaced = Layout.isParameter := by
    funext tree
    cases tree <;> rfl
  rw [parameterTrees, parameterTrees, List.filter_map, same]

theorem isLoneType_unspaced (trees : List Tree) :
    isLoneType (trees.map unspaced) = isLoneType trees := by
  have alone (tree : Tree) : isUnnamed (unspaced tree) = isUnnamed tree := by
    cases tree with
    | leaf => rfl
    | node kind role children =>
        have names : (fun tree : Tree => decide (tree.role = .name)) ∘ unspaced =
            fun tree => decide (tree.role = .name) := by
          funext tree
          cases tree <;> rfl
        simp only [isUnnamed, unspaced, unspacedAll_eq, Tree.child?, children_node, List.find?_map, names,
          Option.isNone_map]
        rfl
  rw [isLoneType, isLoneType, parameterTrees_unspaced]
  cases parameterTrees trees with
  | nil => rfl
  | cons only others =>
      cases others with
      | nil => exact alone only
      | cons => rfl

/-- A list of parameters, with its parentheses, which results are in only where they need them. -/
theorem tidy_list (sound : parameters.Sound)
    (items : Tidy (constituents .parameterList) (parameters.trees indent))
    (needed : role = .result → parameters.needsList = true) (known : .parameterList ∈ context) :
    Tidy context [listTree role space (parameters.trees indent)] := by
  have children : Tidy (constituents .parameterList)
      (mark space "(" :: (parameters.trees indent ++ [mark "" ")"])) :=
    (tidy_mark (by decide)).cons (items.append (tidy_mark (by decide)))
  refine tidy_node children known (by decide) (isSteady_list sound) ?_
  rw [freed, children_node, parameterTrees_unspaced, isLoneType_unspaced]
  by_cases result : role = .result
  · have several : isLoneType (mark space "(" :: (parameters.trees indent ++ [mark "" ")"])) = false := by
      by_contra lone
      obtain ⟨type, rfl⟩ := eq_of_isLoneType (by simpa using lone)
      exact absurd (needed result) (by simp [Parameters.needsList])
    have some := @isEmpty_list indent space _ (needed result)
    simp [several, some]
  · simp [result]

theorem starless_names (space first : String) (more : List String) :
    (nameTrees .fieldIdentifier space first more).any (isMarkIn ["*"]) = false := by
  induction more generalizing space first with
  | nil => rfl
  | cons second more ih => simp [nameTrees_cons, ih, isMarkIn, Written.name, mark]

theorem starless_tag (tag : Option Quote) : (tagTrees tag).any (isMarkIn ["*"]) = false := by
  cases tag with
  | none => rfl
  | some quote => cases raw : quote.raw <;> simp [tagTrees, Quote.tree, raw, isMarkIn]

theorem tidy_field {names : List String} {type : String → Tree} {width : Nat}
    (isName : ∀ text ∈ names, IsName text) (typed : ∀ space, Tidy typeKinds [type space])
    (starless : ∀ space, isMarkIn ["*"] (type space) = false) (tag : Option Quote) :
    Tidy (constituents .fieldDeclarationList) [fieldTree indent width names type tag] := by
  have tagged := @tidy_tag (constituents .fieldDeclaration) tag (by decide)
  have typed (space : String) : Tidy (constituents .fieldDeclaration) [type space] :=
    (typed space).mono (by decide)
  cases names with
  | nil =>
      refine tidy_construct ((typed _).cons tagged) (by decide) ?_
      simp [isSpared, starless, starless_tag]
  | cons first more =>
      have names := @tidy_names (constituents .fieldDeclaration) .fieldIdentifier first more isName
        (by decide)
      refine tidy_construct ((names _).append ((typed _).cons tagged)) (by decide) ?_
      simp [isSpared, starless, starless_tag, starless_names]

theorem tidy_struct {fields : List Tree} (each : Tidy (constituents .fieldDeclarationList) fields) :
    Tidy typeKinds [structTree role space indent fields] := by
  have opener (space : String) : Tidy (constituents .fieldDeclarationList) [mark space "\x7b"] :=
    tidy_mark (by decide)
  have closer (space : String) : Tidy (constituents .fieldDeclarationList) [mark space "\x7d"] :=
    tidy_mark (by decide)
  have list : Tidy (constituents .structType) [.node .fieldDeclarationList .plain
      (if fields.isEmpty then [mark "" "\x7b", mark "" "\x7d"]
        else mark " " "\x7b" :: (fields ++ [mark (lineAt indent) "\x7d"]))] := by
    refine tidy_construct ?_ (by decide) rfl
    split
    · exact (opener "").cons (closer "")
    · exact (opener " ").cons (each.append (closer _))
  exact tidy_construct ((tidy_keyword (by decide)).cons list) (by decide) rfl

theorem Ty.Embeds.tidy {type : Ty} (embeds : type.Embeds) (space : String) :
    Tidy typeKinds [type.tree role space indent] := by
  cases type with
  | name text => exact tidy_name (by decide) embeds
  | qualified package text =>
      refine tidy_construct ?_ (by decide) rfl
      exact (tidy_name (by decide) embeds.1).cons
        ((tidy_mark (by decide)).cons (tidy_name (by decide) embeds.2))
  | _ => exact embeds.elim

theorem Ty.isMarkIn_tree (type : Ty) (texts : List String) :
    isMarkIn texts (type.tree role space indent) = false :=
  isMarkIn_named (firm_of_kind (type.tree_kind space)).named texts

mutual

theorem Ty.tidy (type : Ty) (sound : type.Sound) (role : Role) (space : String) (indent : Nat) :
    Tidy typeKinds [type.tree role space indent] := by
  match type, sound with
  | .name text, sound => exact tidy_name (by decide) sound.1
  | .qualified package text, sound =>
      have embeds : (Ty.qualified package text).Embeds := ⟨sound.1, sound.2.2⟩
      exact embeds.tidy space
  | .pointer target, sound =>
      exact tidy_construct ((tidy_mark (by decide)).cons
        (target.tidy sound .plain "" indent)) (by decide) rfl
  | .slice element, sound =>
      refine tidy_construct ?_ (by decide) rfl
      exact (tidy_mark (by decide)).cons
        ((tidy_mark (by decide)).cons (element.tidy sound .element "" indent))
  | .array length element, sound =>
      have last : Tidy (constituents .arrayType) [element.tree .element "" indent] :=
        (element.tidy sound.2 .element "" indent).mono (by decide)
      refine tidy_construct ?_ (by decide) rfl
      exact (tidy_mark (by decide)).cons
        ((tidy_leaf (by decide) fun _ => clear_int sound.1).cons
          ((tidy_mark (by decide)).cons last))
  | .function parameters result, sound =>
      have list : Tidy (constituents .functionType)
          [listTree .parameters "" (parameters.trees indent)] :=
        tidy_list sound.1 (parameters.tidy sound.1 indent) (by simp) (by decide)
      refine tidy_construct ?_ (by decide) rfl
      exact (tidy_keyword (by decide)).cons (list.cons (result.tidy sound.2 indent))
  | .struct fields, sound => exact tidy_struct (fields.tidy sound (indent + 1) fields.width)

theorem Parameters.tidy (parameters : Parameters) (sound : parameters.Sound) (indent : Nat) :
    Tidy (constituents .parameterList) (parameters.trees indent) := by
  match parameters, sound with
  | .nil, _ => exact tidy_nil
  | .cons label type rest, sound =>
      have first := Label.tidy sound.1 (fun space => type.tidy sound.2.1 .type space indent) ""
      exact first.cons (rest.tidyMore sound.2.2.2 indent)

theorem Parameters.tidyMore (parameters : Parameters) (sound : parameters.Sound) (indent : Nat) :
    Tidy (constituents .parameterList) (parameters.more indent) := by
  match parameters, sound with
  | .nil, _ => exact tidy_nil
  | .cons label type rest, sound =>
      have first := Label.tidy sound.1 (fun space => type.tidy sound.2.1 .type space indent) " "
      exact tidy_comma (label.firm _ _).named (first.cons (rest.tidyMore sound.2.2.2 indent))

theorem Result.tidy (result : Result) (sound : result.Sound) (indent : Nat) :
    Tidy (.parameterList :: typeKinds) (result.trees indent) := by
  match result, sound with
  | .none, _ => exact tidy_nil
  | .lone type, sound => exact (type.tidy sound .result " " indent).mono (by simp)
  | .list parameters, sound =>
      exact tidy_list sound.1 (parameters.tidy sound.1 indent) (fun _ => sound.2) (by simp)

theorem Fields.tidy (fields : Fields) (sound : fields.Sound) (indent width : Nat) :
    Tidy (constituents .fieldDeclarationList) (fields.trees indent width) := by
  match fields, sound with
  | .nil, _ => exact tidy_nil
  | .cons [] type tag rest, sound =>
      have first := @tidy_field indent [] (typed type indent) width (by simp)
        (fun space => sound.1.tidy space)
        (fun space => type.isMarkIn_tree ["*"]) tag
      exact first.cons (rest.tidy sound.2.2 indent width)
  | .cons (name :: names) type tag rest, sound =>
      have first := @tidy_field indent (name :: names) (typed type indent) width sound.1
        (fun space => type.tidy sound.2.1 .type space indent) (fun space => type.isMarkIn_tree ["*"]) tag
      exact first.cons (rest.tidy sound.2.2.2 indent width)

end

end Types

/-! Expressions and statements. -/

section Expressions

theorem clear_allocator {word : String} (allocator : word ∈ allocators) : Clear word := by
  simp only [allocators, List.mem_cons, List.not_mem_nil, or_false] at allocator
  rcases allocator with rfl | rfl <;> decide

theorem tidy_arguments {arguments : List Tree} (inside : Tidy (constituents .argumentList) arguments) :
    Tidy (constituents .callExpression)
      [.node .argumentList .arguments (mark "" "(" :: (arguments ++ [mark "" ")"]))] := by
  refine tidy_construct ?_ (by decide) rfl
  exact (tidy_mark (by decide)).cons
    (inside.append (tidy_mark (by decide)))

theorem Expr.kind_ne_int {expr : Expr} (other : expr.isInt = false) (role : Role) (space : String) :
    (expr.tree role space).kind ≠ .intLiteral := by
  cases expr with
  | name text =>
      intro same
      have among := operandKind_mem text
      rw [show operandKind text = .intLiteral from same] at among
      simp at among
  | int => simp [isInt] at other
  | _ => simp [Expr.tree, Tree.kind]

mutual

theorem Expr.tidy (expr : Expr) (sound : expr.Sound) (role : Role) (space : String) :
    Tidy expressionKinds [expr.tree role space] := by
  match expr, sound with
  | .name text, sound =>
      have among := operandKind_mem text
      refine tidy_name ⟨@Expr.tree_kind role (.name text) space, ?_⟩ sound.1
      intro same
      simp only [List.mem_cons, List.not_mem_nil, or_false] at same
      rcases same with same | same <;> simp [same] at among
  | .int text, sound => exact tidy_leaf (by decide) fun _ => clear_int sound
  | .selector operand field, sound =>
      have first : Tidy (constituents .selectorExpression) [operand.tree .operand space] :=
        (operand.tidy sound.1 .operand space).mono (by decide)
      have other := Expr.kind_ne_int sound.2.1 .operand space
      refine tidy_construct (first.cons ((tidy_mark (by decide)).cons
        (tidy_name (by decide) sound.2.2))) (by decide) ?_
      simp [isSpared, other]
  | .paren inner, sound =>
      have inside : Tidy (constituents .parenthesizedExpression) [inner.tree .plain ""] :=
        inner.tidy sound .plain ""
      refine tidy_construct ?_ (by decide) rfl
      exact (tidy_mark (by decide)).cons
        (inside.cons (tidy_mark (by decide)))
  | .call function arguments, sound =>
      have first : Tidy (constituents .callExpression) [function.tree .function space] :=
        (function.tidy sound.1 .function space).mono (by decide)
      have inside : Tidy (constituents .argumentList) (arguments.trees "") :=
        (arguments.tidy sound.2.1 "").mono (by decide)
      exact tidy_construct (first.cons (tidy_arguments inside)) (by decide) rfl
  | .allocation word type arguments, sound =>
      have inside : Tidy (constituents .argumentList)
          (Written.name .typeIdentifier .plain "" type :: arguments.more) :=
        (tidy_name (by decide) sound.2.1).cons
          ((arguments.tidyMore sound.2.2.2).mono (by decide))
      refine tidy_construct ((tidy_leaf (by decide) fun _ => clear_allocator sound.1).cons
        (tidy_arguments inside)) (by decide) rfl

theorem Arguments.tidy (arguments : Arguments) (sound : arguments.Sound) (space : String) :
    Tidy expressionKinds (arguments.trees space) := by
  match arguments, sound with
  | .nil, _ => exact tidy_nil
  | .cons first rest, sound => exact (first.tidy sound.1 .plain space).cons (rest.tidyMore sound.2)

theorem Arguments.tidyMore (arguments : Arguments) (sound : arguments.Sound) :
    Tidy expressionKinds arguments.more := by
  match arguments, sound with
  | .nil, _ => exact tidy_nil
  | .cons first rest, sound =>
      exact tidy_comma (firm_expression (first.tree_kind " ")).named
        ((first.tidy sound.1 .plain " ").cons (rest.tidyMore sound.2))

end

theorem Statement.tidy {statement : Statement} (sound : statement.Sound) (space : String) :
    Tidy (constituents .block) [statement.tree space] := by
  match statement, sound with
  | .return .nil, _ =>
      exact tidy_construct (tidy_keyword (by decide)) (by decide) rfl
  | .return (.cons first rest), sound =>
      have list : Tidy (constituents .returnStatement)
          [.node .expressionList .plain ((Arguments.cons first rest).trees " ")] :=
        tidy_construct ((Arguments.cons first rest).tidy sound " ") (by decide) rfl
      exact tidy_construct ((tidy_keyword (by decide)).cons list) (by decide) rfl
  | .expression value, sound =>
      exact tidy_construct (value.tidy sound.1 .plain space) (by decide) rfl

/-- Constructs of one sort, each on its own. -/
theorem tidy_map {α : Type} {context : List Kind} {phrase : α → Tree} {items : List α}
    (each : ∀ item ∈ items, Tidy context [phrase item]) : Tidy context (items.map phrase) := by
  induction items with
  | nil => exact tidy_nil
  | cons item items ih =>
      simp only [List.forall_mem_cons] at each
      exact each.1.cons (ih each.2)

theorem tidy_body {context : List Kind} {statements : List Statement}
    (sound : ∀ one ∈ statements, one.Sound) (known : .block ∈ context) :
    Tidy context [bodyTree statements] := by
  have each := tidy_map fun one member => Statement.tidy (sound one member) (lineAt 1)
  refine tidy_construct ?_ ⟨known, by decide⟩ rfl
  exact (tidy_mark (by decide)).cons (each.append (tidy_mark (by decide)))

end Expressions

/-! Declarations. -/

section Declarations

theorem ImportName.tidy {name : ImportName} (sound : name.Sound) (space : String) :
    Tidy (constituents .importSpec) [name.tree space] := by
  cases name with
  | dot => exact tidy_leaf (by decide) fun _ => clear_marks.2.2.2.2.2.2.2.2
  | blank => exact tidy_leaf (by decide) fun _ => (by decide : Clear "_")
  | word text => exact tidy_name (by decide) sound.1

theorem Import.tidy {spec : Import} (sound : spec.Sound) (space : String) :
    Tidy (constituents .importSpecList) [spec.tree space] := by
  obtain ⟨name, path⟩ := spec
  have path (space : String) : Tidy (constituents .importSpec) [path.tree .path space] :=
    tidy_quote path (by decide)
  cases name with
  | none => exact tidy_construct (path space) (by decide) rfl
  | some label =>
      exact tidy_construct ((ImportName.tidy (sound.name label rfl) space).cons (path " "))
        (by decide) rfl

theorem TypeSpec.tidy {spec : TypeSpec} (sound : spec.Sound) (space : String) (indent : Nat) :
    Tidy (constituents .typeDeclaration) [spec.tree space indent] := by
  have target := spec.target.tidy sound.target .type " " indent
  unfold TypeSpec.tree
  split
  · refine tidy_construct ?_ (by decide) rfl
    exact (tidy_name (by decide) sound.name).cons
      ((tidy_mark (by decide)).cons target)
  · refine tidy_construct ?_ (by decide) rfl
    exact (tidy_name (by decide) sound.name).cons target

theorem Declaration.tidy {declaration : Declaration} (sound : declaration.Sound) (space : String) :
    Tidy declarationKinds [declaration.tree space] := by
  cases declaration with
  | package text =>
      refine tidy_construct ?_ (by decide) rfl
      exact (tidy_keyword (by decide)).cons (tidy_name (by decide) sound)
  | «import» spec =>
      refine tidy_construct ?_ (by decide) rfl
      exact (tidy_keyword (by decide)).cons ((Import.tidy sound " ").mono (by decide))
  | imports specs =>
      have each := tidy_map fun one member => Import.tidy (sound one member) (lineAt 1)
      have list : Tidy (constituents .importDeclaration) [.node .importSpecList .plain
          (mark " " "(" :: (specs.map (Import.tree (lineAt 1))
            ++ [mark (if specs.isEmpty then "" else "\n") ")"]))] := by
        refine tidy_construct ?_ (by decide) rfl
        exact (tidy_mark (by decide)).cons (each.append (tidy_mark (by decide)))
      refine tidy_construct ?_ (by decide) rfl
      exact (tidy_keyword (by decide)).cons list
  | type spec =>
      refine tidy_construct ?_ (by decide) rfl
      exact (tidy_keyword (by decide)).cons (TypeSpec.tidy sound " " 0)
  | types specs =>
      have each := tidy_map fun one member => TypeSpec.tidy (sound one member) (lineAt 1) 1
      refine tidy_construct ?_ (by decide) rfl
      exact (tidy_keyword (by decide)).cons ((tidy_mark (by decide)).cons
        (each.append (tidy_mark (by decide))))
  | function receiver text parameters result body =>
      obtain ⟨isName, soundList, soundResult, soundReceiver, soundBody⟩ := sound
      have list (role : Role) (space : String) (other : role ≠ .result) {parameters : Parameters}
          (sound : parameters.Sound) (context : List Kind) (known : .parameterList ∈ context) :
          Tidy context [listTree role space (parameters.trees 0)] :=
        tidy_list sound (parameters.tidy sound 0) (fun same => absurd same other) known
      have last (context : List Kind) (known : .block :: .parameterList :: typeKinds ⊆ context) :
          Tidy context (result.trees 0 ++ body.toList.map bodyTree) := by
        refine ((result.tidy soundResult 0).mono fun kind member => known (by simp [member])).append ?_
        exact tidy_map fun statements member =>
          tidy_body (soundBody statements (by simpa using member)) (known (by simp))
      cases receiver with
      | none =>
          refine tidy_construct ?_ (by decide) rfl
          exact (tidy_keyword (by decide)).cons
            ((tidy_name (by decide) isName).cons
              ((list .parameters "" (by decide) soundList _ (by decide)).cons (last _ (by decide))))
      | some receiver =>
          refine tidy_construct ?_ (by decide) rfl
          exact (tidy_keyword (by decide)).cons
            ((list .receiver " " (by decide) (soundReceiver receiver rfl).1 _ (by decide)).cons
              ((tidy_name (by decide) isName).cons
                ((list .parameters "" (by decide) soundList _ (by decide)).cons (last _ (by decide)))))

end Declarations

end InterfaceMocks.Preservation
