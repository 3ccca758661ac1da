import InterfaceMocks.Extraction.Interfaces
import InterfaceMocks.Proofs.Written.Layouts

/-!
What extraction finds in written constructs: the types, parameters, methods and imports that they were
written from.
-/

namespace InterfaceMocks.Written

open InterfaceMocks.Syntax
open InterfaceMocks.Extraction

def TypeKnown : TypeExpr → Prop
  | .named _ => True
  | .qualified _ _ => True
  | .pointer inner => TypeKnown inner
  | .array none element => TypeKnown element
  | .array (some text) element => classOf text = .int ∧ TypeKnown element
  | .unrecognised => False

theorem typeOf_type {expr : TypeExpr} (known : TypeKnown expr) (role : Role) (space : String) :
    typeOf (type role space expr) = expr := by
  induction expr generalizing role space with
  | named text => simp [type, name, typeOf]
  | qualified package text => simp [type, typeOf, Tree.textAt]
  | pointer inner ih =>
      have none : (type .plain "" inner).commentsBefore = [] := by
        simp [Tree.commentsBefore]
      simp [type, typeOf, firstType, none, ih known]
  | array length element ih =>
      cases length with
      | none => simp [type, typeOf, elementType, ih known]
      | some text =>
          have literal : (Written.length text).role = .length
              ∧ (Written.length text).kind = .intLiteral ∧ (Written.length text).text = text := by
            simp [Written.length, known.1, literalKind, Tree.kind, Tree.text, Token.textOf]
          simp [type, typeOf, elementType, lengthText, ih known.2, literal, Kind.isBasicLiteral]
  | unrecognised => exact absurd known (by simp [TypeKnown])

def Slot.params (slot : Slot) : List Param := declared slot.names slot.type

theorem declaredParams_slot {slot : Slot} (known : TypeKnown slot.type) :
    declaredParams slot.tree = slot.params := by
  have listed : (slot.tree.childrenWith .name).map Tree.text = slot.names := slot_names_texts slot
  have typed : (slot.tree.child? .type).map typeOf = some slot.type := by
    obtain ⟨space, names, expr⟩ := slot
    have found (space : String) := typeOf_type known .type space
    cases names with
    | nil => simpa [Slot.tree, Slot.trees, Tree.child?] using found space
    | cons first names =>
        have skipped : (names.flatMap fun text =>
            [mark "" ",", name .identifier .name " " text]).find?
              (fun tree => tree.role = .type) = none := by
          simp
        simp only [Slot.tree, Tree.child?, children_node, Slot.trees, List.cons_append]
        rw [List.find?_cons_of_neg (by simp), List.find?_append, skipped]
        simpa using found " "
  have kind : slot.tree.kind = .parameterDeclaration := rfl
  simp only [declaredParams, kind, listed, typed, Option.getD_some, Slot.params]

theorem paramsOf_parameters (role : Role) (space : String) {slots : List Slot}
    (known : ∀ slot ∈ slots, TypeKnown slot.type) :
    paramsOf (parameters role space slots) = slots.flatMap Slot.params := by
  have punctuation (space text : String) : declaredParams (mark space text) = [] := rfl
  have later (slots : List Slot) (known : ∀ slot ∈ slots, TypeKnown slot.type) :
      ((slots.map Slot.tree).flatMap fun tree => [mark "" ",", tree]).flatMap declaredParams =
        slots.flatMap Slot.params := by
    induction slots with
    | nil => rfl
    | cons slot slots ih =>
        have here := declaredParams_slot (known slot List.mem_cons_self)
        have rest := ih fun other member => known other (List.mem_cons_of_mem _ member)
        simp only [List.map_cons, List.flatMap_cons, List.flatMap_append, List.flatMap_nil,
          punctuation, here, rest, List.nil_append, List.append_nil]
  cases slots with
  | nil => simp [paramsOf, parameters, commas, punctuation]
  | cons slot slots =>
      have here := declaredParams_slot (known slot List.mem_cons_self)
      have rest := later slots fun other member => known other (List.mem_cons_of_mem _ member)
      simp only [paramsOf, parameters, children_node, commas, List.map_cons, List.cons_append,
        List.flatMap_cons, List.flatMap_append, List.flatMap_nil, punctuation, here, rest,
        List.nil_append, List.append_nil]

def Result.params : Result → List Param
  | none => []
  | lone _ type => [⟨"", type⟩]
  | list _ slots => slots.flatMap Slot.params

def Result.Known : Result → Prop
  | none => True
  | lone _ type => TypeKnown type
  | list _ slots => ∀ slot ∈ slots, TypeKnown slot.type

structure Signature.Known (signature : Signature) : Prop where
  args : ∀ slot ∈ signature.args, TypeKnown slot.type
  result : signature.result.Known

def Element.method (element : Element) : Method where
  name := element.name
  args := element.signature.args.flatMap Slot.params
  returns := element.signature.result.params

theorem resultsOf_written {result : Result} (known : result.Known) :
    ((result.trees.find? fun tree => tree.role = .result).map resultsOf).getD [] =
      result.params := by
  cases result with
  | none => rfl
  | lone space expr =>
      have other : (type .result space expr).kind ≠ .parameterList := by
        cases expr with
        | array length element => cases length <;> simp [type]
        | _ => simp [type]
      simp [Result.trees, resultsOf, other, typeOf_type known, Result.params]
  | list space slots =>
      have listed := paramsOf_parameters .result space known
      have role : (parameters .result space slots).role = .result := rfl
      have kind : (parameters .result space slots).kind = .parameterList := rfl
      simp [Result.trees, resultsOf, role, kind, listed, Result.params]

theorem methodOf_element {element : Element} (known : element.signature.Known) :
    methodOf? element.tree = some element.method := by
  have args := paramsOf_parameters .parameters "" known.args
  have results := resultsOf_written known.result
  have kind : element.tree.kind = .methodElement := rfl
  have named : element.tree.child? .name =
      some (name .fieldIdentifier .name element.space element.name) := by
    simp [Element.tree, Tree.child?]
  have role (role : Role) (space : String) (slots : List Slot) :
      (parameters role space slots).role = role := rfl
  have listed : element.tree.child? .parameters =
      some (parameters .parameters "" element.signature.args) := by
    simp [Element.tree, Tree.child?, Signature.trees, role]
  have found : element.tree.child? .result =
      element.signature.result.trees.find? fun tree => tree.role = .result := by
    simp [Element.tree, Tree.child?, Signature.trees, role]
  simp only [methodOf?, kind, named, listed, found, results, Option.map_some, Option.getD_some,
    args, text_name, if_true, Element.method]

theorem interfacesOf_written {elements : List Element}
    (known : ∀ element ∈ elements, element.signature.Known) (space text : String) :
    interfacesOf (typeDeclaration space text (interfaceType elements)) =
      [⟨text, elements.map Element.method⟩] := by
  have methods : (interfaceType elements).children.filterMap methodOf? =
      elements.map Element.method := by
    have each : (elements.map Element.tree).filterMap methodOf? = elements.map Element.method := by
      rw [List.filterMap_map, ← List.filterMap_eq_map]
      refine List.filterMap_congr fun element member => ?_
      exact methodOf_element (known element member)
    have plain (space text : String) : methodOf? (keyword space text) = none
        ∧ methodOf? (mark space text) = none := ⟨rfl, rfl⟩
    simp only [interfaceType, children_node, List.cons_append, List.filterMap_cons,
      List.filterMap_append, List.filterMap_nil, plain, each, List.append_nil]
  have role : (interfaceType elements).role = .type := rfl
  have kind : (interfaceType elements).kind = .interfaceType := rfl
  have spec : interfaceOf? (.node .typeSpec .plain
      [name .typeIdentifier .name " " text, interfaceType elements]) =
        some ⟨text, elements.map Element.method⟩ := by
    simp [interfaceOf?, Tree.child?, role, kind, methods]
  simp [interfacesOf, Written.typeDeclaration, Tree.childrenOf, spec]

theorem unquote_quoted {path : String} (plain : ∀ c ∈ path.toList, isQuote c = false) :
    unquote (quoted path) = path := by
  have keeps (cs rest : List Char) (plain : ∀ c ∈ cs, isQuote c = false) (some : cs ≠ []) :
      (cs ++ rest).dropWhile isQuote = cs ++ rest := by
    obtain ⟨c, more, rfl⟩ := List.exists_cons_of_ne_nil some
    simp [plain c List.mem_cons_self]
  have text : (quoted path).toList = '\x22' :: (path.toList ++ ['\x22']) := by simp [quoted]
  have quote : isQuote '\x22' = true := rfl
  apply String.toList_injective
  rw [unquote, String.toList_ofList, text, List.dropWhile_cons_of_pos quote]
  by_cases none : path.toList = []
  · simp [none, quote]
  · have reversed : ∀ c ∈ path.toList.reverse, isQuote c = false := by simpa using plain
    have back := keeps path.toList.reverse [] reversed (by simpa using none)
    rw [List.append_nil] at back
    rw [keeps _ _ plain none, List.reverse_append, List.reverse_singleton, List.singleton_append,
      List.dropWhile_cons_of_pos quote, back, List.reverse_reverse]

theorem importOf_line {line : ImportLine} (plain : ∀ c ∈ line.path.toList, isQuote c = false) :
    importOf? line.tree = some (line.path, line.label) := by
  have path (space : String) : (line.path? space).text = quoted line.path
      ∧ (line.path? space).role = .path := by
    simp [ImportLine.path?]
  have quote := unquote_quoted plain
  simp only [importOf?, ImportLine.tree, ImportLine.trees]
  by_cases none : line.label = ""
  · simp [none, Tree.child?, path, quote]
  · by_cases dot : line.label = "."
    · simp [dot, Tree.child?, path, quote]
    · by_cases blank : line.label = "_"
      · simp [blank, Tree.child?, path, quote]
      · simp [none, dot, blank, Tree.child?, path, quote]

theorem importsOf_written (space after : String) {lines : List ImportLine}
    (plain : ∀ line ∈ lines, ∀ c ∈ line.path.toList, isQuote c = false) :
    importsOf (imports space lines after) = lines.map fun line => (line.path, line.label) := by
  have specs : Tree.childrenOf .importSpec (.node .importSpecList .plain
      (mark " " "(" :: lines.map ImportLine.tree ++ [mark after ")"])) =
        lines.map ImportLine.tree := importSpecs_written lines after
  have each : (lines.map ImportLine.tree).filterMap importOf? =
      lines.map fun line => (line.path, line.label) := by
    rw [List.filterMap_map, ← List.filterMap_eq_map]
    refine List.filterMap_congr fun line member => ?_
    exact importOf_line (plain line member)
  rw [← each, ← specs]
  simp [importsOf, importSpecs, imports, Tree.childrenOf]

theorem packageName_written (text : String) : packageName? (package text) = some text := by
  simp [packageName?, package, Tree.childrenOf]

end InterfaceMocks.Written
