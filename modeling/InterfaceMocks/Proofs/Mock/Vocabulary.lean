import InterfaceMocks.Proofs.Mock.Trees

/-!
White space aside, the canonical file has no text that the file it is laid out from does not have: it
only leaves out the parentheses around some results.
-/

namespace InterfaceMocks.Mock

open InterfaceMocks.Syntax
open InterfaceMocks.Written
open InterfaceMocks.Grammar (tokensOf_append)
open Spacing (emitted canonical)

def texts (tree : Tree) : List String := tree.tokens.map Token.text

def textsOf (trees : List Tree) : List String := (Tree.tokensOf trees).map Token.text

@[simp] theorem textsOf_nil : textsOf [] = [] := rfl

@[simp] theorem textsOf_cons (tree : Tree) (rest : List Tree) :
    textsOf (tree :: rest) = texts tree ++ textsOf rest := by
  simp [textsOf, texts]

@[simp] theorem textsOf_append (first second : List Tree) :
    textsOf (first ++ second) = textsOf first ++ textsOf second := by
  simp [textsOf, tokensOf_append]

@[simp] theorem texts_node (kind : Kind) (role : Role) (children : List Tree) :
    texts (.node kind role children) = textsOf children := by
  simp [texts, textsOf]

@[simp] theorem texts_mark (space text : String) : texts (mark space text) = [text] := by
  simp [texts]

@[simp] theorem texts_keyword (space text : String) : texts (keyword space text) = [text] := by
  simp [texts]

@[simp] theorem texts_name (kind : Kind) (role : Role) (space text : String) :
    texts (name kind role space text) = [text] := by
  simp [texts]

theorem mem_textsOf {text : String} {trees : List Tree} :
    text ∈ textsOf trees ↔ ∃ tree ∈ trees, text ∈ texts tree := by
  induction trees with
  | nil => simp
  | cons tree rest ih => simp [ih]

/-- Trees of which each has its texts among those of one of the others. -/
theorem textsOf_subset {first second : List Tree}
    (each : ∀ tree ∈ first, ∃ other ∈ second, texts tree ⊆ texts other) :
    textsOf first ⊆ textsOf second := by
  intro text member
  obtain ⟨tree, found, inside⟩ := mem_textsOf.1 member
  obtain ⟨other, among, subset⟩ := each tree found
  exact mem_textsOf.2 ⟨other, among, subset inside⟩

/-! Roles and white space do not matter. -/

theorem texts_type (role role' : Role) (space space' : String) (expr : TypeExpr) :
    texts (type role space expr) = texts (type role' space' expr) := by
  cases expr with
  | array length element => cases length <;> simp [type]
  | _ => simp [type]

theorem texts_slot (spacing spacing' : Spacing) (first first' : Bool) (param : Param) :
    texts (slot spacing first param).tree = texts (slot spacing' first' param).tree := by
  by_cases unnamed : param.name = ""
  · simp only [slot, unnamed, if_true, Slot.tree, Slot.trees, texts_node, textsOf_cons]
    rw [texts_type .type .type _ ((if first' then "" else " ") ++ spacing'.unnamed)]
  · simp [slot, unnamed, Slot.tree, Slot.trees]

theorem textsOf_slots (spacing spacing' : Spacing) (role role' : Role) (space space' : String)
    (params : List Param) :
    texts (parameters role space (spread (slot spacing) params)) =
      texts (parameters role' space' (spread (slot spacing') params)) := by
  have later (spacing spacing' : Spacing) (rest : List Param) :
      textsOf (((rest.map (slot spacing false)).map Slot.tree).flatMap
          fun tree => [mark "" ",", tree]) =
        textsOf (((rest.map (slot spacing' false)).map Slot.tree).flatMap
          fun tree => [mark "" ",", tree]) := by
    induction rest with
    | nil => rfl
    | cons param rest ih =>
        simp only [List.map_cons, List.flatMap_cons, textsOf_append, textsOf_cons,
          texts_slot spacing spacing' false false param, ih]
  cases params with
  | nil => simp [parameters, spread, commas]
  | cons param rest =>
      simp only [parameters, spread, commas, List.map_cons, texts_node, List.cons_append,
        textsOf_cons, textsOf_append, texts_mark, texts_slot spacing spacing' true true param,
        later spacing spacing' rest]

/-- Whether results are written with all texts that they are laid out with. -/
def Spacing.Covers (spacing : Spacing) : Prop :=
  ∀ returns, textsOf (canonicalResult (spread (slot canonical) returns)).trees ⊆
    textsOf (spacing.result (spread (slot spacing) returns)).trees

theorem Spacing.emitted_covers : emitted.Covers := by
  intro returns
  have listed : (emitted.result (spread (slot emitted) returns)).trees =
      [parameters .result " " (spread (slot emitted) returns)] := rfl
  rw [listed, textsOf_cons, textsOf_nil, List.append_nil,
    textsOf_slots emitted canonical .result .result " " " " returns]
  unfold canonicalResult
  split
  · simp [Result.trees]
  · rename_i space expr same
    rw [same]
    intro text member
    have inside : text ∈ texts (type .type space expr) := by
      rw [texts_type .type .result space " "]
      simpa [Result.trees] using member
    simp [parameters, commas, Slot.tree, Slot.trees, inside]
  · simp [Result.trees]

theorem Spacing.canonical_covers : canonical.Covers := fun _ => List.Subset.refl _

section Covered

variable {spacing : Spacing} (covers : spacing.Covers)

include covers

theorem textsOf_signature (method : Method) :
    textsOf (methodSignature canonical method).trees ⊆
      textsOf (methodSignature spacing method).trees := by
  have args := textsOf_slots canonical spacing .parameters .parameters "" ""
    (Forwarding.arguments method)
  have result : canonical.result = canonicalResult := rfl
  simp only [Signature.trees, methodSignature, signature, textsOf_cons, result, args]
  exact List.append_subset.2 ⟨List.subset_append_left _ _,
    List.subset_append_of_subset_right _ (covers method.returns)⟩

/-! Declarations. -/

theorem texts_struct (methods : List Method) :
    texts (struct canonical methods) ⊆ texts (struct spacing methods) := by
  have fields : textsOf (methods.map fun method =>
        (field canonical (fieldWidth methods) method).tree) ⊆
      textsOf (methods.map fun method => (field spacing (fieldWidth methods) method).tree) := by
    refine textsOf_subset fun tree member => ?_
    obtain ⟨method, found, rfl⟩ := List.mem_map.1 member
    refine ⟨_, List.mem_map_of_mem found, ?_⟩
    have inside := textsOf_signature covers method
    simp only [Field.tree, functionType, field, texts_node, textsOf_cons, texts_name, texts_keyword,
      textsOf_nil, List.append_nil, List.cons_append, List.nil_append]
    exact List.cons_subset_cons _ (List.cons_subset_cons _ inside)
  simp only [struct, structType, texts_node, textsOf_cons, textsOf_append, texts_keyword,
    texts_mark, textsOf_nil, List.map_map, Function.comp_def, List.cons_append, List.nil_append,
    List.append_nil]
  refine List.cons_subset_cons _ (List.cons_subset_cons _ ?_)
  exact List.append_subset.2 ⟨List.subset_append_of_subset_left _ fields,
    List.subset_append_right _ _⟩

theorem texts_mockMethod (interface : String) (first : Bool) (method : Method) :
    texts (mockMethod canonical interface first method).tree ⊆
      texts (mockMethod spacing interface first method).tree := by
  have inside := textsOf_signature covers method
  have body (space space' : String) (returns : Bool) (receiver field : String)
      (args : List String) :
      texts (block .body space returns receiver field args) =
        texts (block .body space' returns receiver field args) := by
    cases returns <;> simp [block, statement, call]
  have same : (mockMethod canonical interface first method).signature.trees =
      (methodSignature canonical method).trees := rfl
  simp only [MockMethod.tree, mockMethod, texts_node, textsOf_append, textsOf_cons, texts_keyword,
    texts_name, textsOf_nil, body canonical.body spacing.body]
  refine List.append_subset.2 ⟨List.append_subset.2 ⟨?_, ?_⟩, List.subset_append_right _ _⟩
  · exact List.subset_append_of_subset_left _ (List.subset_append_left _ _)
  · exact List.subset_append_of_subset_left _ (List.subset_append_of_subset_right _ inside)

omit covers in
theorem texts_importLine (entry : String × String) :
    texts (importLine canonical entry).tree = texts (importLine spacing entry).tree := by
  simp only [ImportLine.tree, ImportLine.trees, importLine, ImportLine.path?, texts_node]
  by_cases none : entry.2 = ""
  · simp [none, texts]
  · by_cases dot : entry.2 = "."
    · simp [dot, texts]
    · by_cases blank : entry.2 = "_" <;> simp [none, dot, blank, texts]

omit covers in
theorem texts_imports (entries : List (String × String)) :
    texts (importTree canonical entries) ⊆ texts (importTree spacing entries) := by
  have lines : textsOf (entries.map fun entry => (importLine canonical entry).tree) ⊆
      textsOf (entries.map fun entry => (importLine spacing entry).tree) := by
    refine textsOf_subset fun tree member => ?_
    obtain ⟨entry, found, rfl⟩ := List.mem_map.1 member
    refine ⟨_, List.mem_map_of_mem found, ?_⟩
    rw [texts_importLine]
    exact fun text inside => inside
  simp only [importTree, imports, texts_node, textsOf_cons, textsOf_append, texts_keyword,
    texts_mark, textsOf_nil, List.map_map, Function.comp_def, List.cons_append, List.nil_append,
    List.append_nil]
  refine List.cons_subset_cons _ (List.cons_subset_cons _ ?_)
  exact List.append_subset.2 ⟨List.subset_append_of_subset_left _ lines,
    List.subset_append_right _ _⟩

theorem mock_texts (first : Bool) (interface : Interface) :
    ∀ tree ∈ mock canonical first interface,
      ∃ other ∈ mock spacing first interface, texts tree ⊆ texts other := by
  intro tree member
  rcases List.mem_cons.1 member with rfl | later
  · have inside := texts_struct covers interface.methods
    refine ⟨_, List.mem_cons_self, ?_⟩
    simp only [typeDeclaration, texts_node, textsOf_cons, texts_keyword, texts_name, textsOf_nil,
      List.append_nil, List.cons_append, List.nil_append]
    exact List.cons_subset_cons _ (List.cons_subset_cons _ inside)
  · obtain ⟨written, among, rfl⟩ := List.mem_map.1 later
    obtain ⟨start, method, -, rfl, found⟩ :=
      exists_spread (mockMethod spacing interface.name) among
    exact ⟨_, List.mem_cons_of_mem _ (List.mem_map_of_mem found),
      texts_mockMethod covers interface.name start method⟩

/-- The canonical file has no text that the other does not have. -/
theorem textsOf_restTrees (entries? : Option (List (String × String)))
    (interfaces : List Interface) :
    textsOf (restTrees canonical entries? interfaces) ⊆
      textsOf (restTrees spacing entries? interfaces) := by
  refine textsOf_subset fun tree member => ?_
  rcases List.mem_append.1 member with listed | member
  · obtain ⟨entries, rfl, rfl⟩ := Option.map_eq_some_iff.1 (Option.mem_toList.1 listed)
    exact ⟨importTree spacing entries, List.mem_append_left _ (by simp), texts_imports entries⟩
  · obtain ⟨trees, among, member⟩ := List.mem_flatten.1 member
    obtain ⟨first, interface, -, rfl, found⟩ := exists_spread (mock spacing) among
    obtain ⟨other, inside, subset⟩ := mock_texts covers first interface tree member
    exact ⟨other, List.mem_append_right _ (List.mem_flatten.2 ⟨_, found, inside⟩), subset⟩

end Covered

end InterfaceMocks.Mock
