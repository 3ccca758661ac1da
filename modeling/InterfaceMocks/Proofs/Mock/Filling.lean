import InterfaceMocks.Proofs.Mock.Reading
import InterfaceMocks.Proofs.Written.Protected
import InterfaceMocks.Proofs.Written.Tracing

/-!
Packages with a placeholder for each type that was not recognised. The trees of their mocks files are
those of the package itself, with the placeholder in each such place.
-/

namespace InterfaceMocks

def Param.fill (placeholder : String) (param : Param) : Param :=
  ⟨param.name, param.type.fill placeholder⟩

def Method.fill (placeholder : String) (method : Method) : Method :=
  ⟨method.name, method.args.map (Param.fill placeholder),
    method.returns.map (Param.fill placeholder)⟩

def Interface.fill (placeholder : String) (interface : Interface) : Interface :=
  ⟨interface.name, interface.methods.map (Method.fill placeholder)⟩

def Package.fill (placeholder : String) (package : Package) : Package :=
  ⟨package.name, package.imports, package.interfaces.map (Interface.fill placeholder)⟩

namespace Mock

open InterfaceMocks.Syntax
open InterfaceMocks.Text
open InterfaceMocks.Written

section Files

variable (placeholder : String)

/-! Filling changes no name, so that arguments and receivers are called the same. -/

@[simp] theorem fill_names (params : List Param) :
    (params.map (Param.fill placeholder)).map Param.name = params.map Param.name := by
  rw [List.map_map]
  rfl

theorem arguments_fill (method : Method) :
    Forwarding.arguments (method.fill placeholder) =
      (Forwarding.arguments method).map (Param.fill placeholder) := by
  have all : (method.args.map (Param.fill placeholder)).all Forwarding.isForwardable =
      method.args.all Forwarding.isForwardable := by
    rw [List.all_map]
    rfl
  simp only [Forwarding.arguments, Method.fill, all, fill_names]
  split
  · rfl
  · refine List.ext_getElem? fun index => ?_
    rw [List.getElem?_mapIdx, List.getElem?_map, List.getElem?_map, List.getElem?_mapIdx,
      Option.map_map, Option.map_map]
    rfl

theorem receiver_fill (interface : String) (args returns : List Param) :
    Forwarding.receiver interface (args.map (Param.fill placeholder))
        (returns.map (Param.fill placeholder)) =
      Forwarding.receiver interface args returns := by
  rw [Forwarding.receiver, ← List.map_append, fill_names, ← Forwarding.receiver]

theorem spread_fill (spacing : Spacing) (params : List Param) :
    spread (slot spacing) (params.map (Param.fill placeholder)) =
      (spread (slot spacing) params).map (Slot.fill placeholder) := by
  have each (first : Bool) (param : Param) : slot spacing first (param.fill placeholder) =
      (slot spacing first param).fill placeholder := by
    by_cases unnamed : param.name = "" <;> simp [slot, Param.fill, Slot.fill, unnamed]
  cases params with
  | nil => rfl
  | cons param params => simp [spread, each]

structure Spacing.Even (spacing : Spacing) : Prop where
  fill : ∀ slots, spacing.result (slots.map (Slot.fill placeholder)) =
    (spacing.result slots).fill placeholder
  clear : ∀ slots, (∀ slot ∈ slots, slot.Clear) → (spacing.result slots).Clear

theorem Spacing.emitted_even : Spacing.emitted.Even placeholder where
  fill _ := rfl
  clear _ each := ⟨clear_spaces.2.1, each⟩

theorem Spacing.canonical_even : Spacing.canonical.Even placeholder where
  fill slots := by
    show canonicalResult _ = (canonicalResult slots).fill placeholder
    match slots with
    | [] => rfl
    | [⟨space, names, expr⟩] => cases names <;> rfl
    | ⟨space, names, expr⟩ :: second :: rest => cases names <;> rfl
  clear slots each := by
    show (canonicalResult slots).Clear
    unfold canonicalResult
    split
    · trivial
    · exact ⟨clear_spaces.2.1, (each _ List.mem_cons_self).type⟩
    · exact ⟨clear_spaces.2.1, each⟩

structure ParamClear (param : Param) : Prop where
  name : param.name ≠ "" → IsName param.name
  type : TypeClear param.type

structure MethodClear (method : Method) : Prop where
  name : IsName method.name
  field : IsName (Naming.fieldName method.name)
  args : ∀ param ∈ Forwarding.arguments method, ParamClear param
  returns : ∀ param ∈ method.returns, ParamClear param

structure InterfaceClear (interface : Interface) : Prop where
  struct : IsName (Naming.structName interface.name)
  receiver : IsName (Naming.receiverName interface.name)
  methods : ∀ method ∈ interface.methods, MethodClear method

structure EntryClear (entry : String × String) : Prop where
  label : Clear entry.2
  path : Clear entry.1

section Clear

variable {spacing : Spacing} (fits : spacing.Fits) (even : spacing.Even placeholder)

include fits

theorem slots_clear {params : List Param} (clear : ∀ param ∈ params, ParamClear param) :
    ∀ other ∈ spread (slot spacing) params, other.Clear := by
  intro other member
  obtain ⟨first, param, found, rfl⟩ := mem_spread member
  obtain ⟨named, typed⟩ := clear param found
  have start : Clear (if first then "" else " ") := by cases first <;> decide
  by_cases unnamed : param.name = ""
  · have blank := clear_of_blank fits.unnamed
    rw [slot, if_pos unnamed]
    refine ⟨?_, by simp, typed⟩
    simp only [Clear, String.toList_append, List.mem_append, not_or]
    exact ⟨start, blank⟩
  · rw [slot, if_neg unnamed]
    exact ⟨start, by simpa using clear_of_isName (named unnamed), typed⟩

include even

theorem methodSignature_clear {method : Method} (clear : MethodClear method) :
    (methodSignature spacing method).Clear where
  args := slots_clear fits clear.args
  result := even.clear _ (slots_clear fits clear.returns)

omit fits in
theorem methodSignature_fill (method : Method) :
    methodSignature spacing (method.fill placeholder) =
      (methodSignature spacing method).fill placeholder := by
  simp only [methodSignature, signature, Signature.fill, arguments_fill, spread_fill]
  simp only [Method.fill, spread_fill, even.fill]

theorem struct_clear {methods : List Method} (clear : ∀ method ∈ methods, MethodClear method) :
    ∀ other ∈ methods.map (field spacing (fieldWidth methods)), other.Clear := by
  intro other member
  obtain ⟨method, found, rfl⟩ := List.mem_map.1 member
  exact ⟨clear_of_blank fits.field.blank, clear_of_isName (clear method found).field,
    clear_of_blank (fits.fieldType _ _).1.blank,
    methodSignature_clear placeholder fits even (clear method found)⟩

theorem struct_fill {methods : List Method} (clear : ∀ method ∈ methods, MethodClear method) :
    fillTree placeholder (struct spacing methods) =
      struct spacing (methods.map (Method.fill placeholder)) := by
  have filled := fillTree_structType placeholder (spacing.brace methods.isEmpty)
    (spacing.braceEnd methods.isEmpty) (struct_clear placeholder fits even clear)
  have width : fieldWidth (methods.map (Method.fill placeholder)) = fieldWidth methods := by
    rw [fieldWidth, List.map_map]
    rfl
  have each (width : Nat) (method : Method) : field spacing width (method.fill placeholder) =
      (field spacing width method).fill placeholder := by
    simp only [field, Field.fill, methodSignature_fill placeholder even]
    rfl
  rw [struct, filled, struct, width, List.isEmpty_map, List.map_map, List.map_map]
  congr 1
  refine List.map_congr_left fun method member => ?_
  exact (each _ method).symm

theorem mockMethod_clear {interface : Interface} (clear : InterfaceClear interface) (first : Bool)
    {method : Method} (found : method ∈ interface.methods) :
    (mockMethod spacing interface.name first method).Clear where
  space := clear_of_blank (fits.func first).blank
  receiver := clear_of_isName (receiver_isName clear.receiver ..)
  owner := clear_of_isName clear.struct
  name := clear_of_isName (clear.methods method found).name
  signature := methodSignature_clear placeholder fits even (clear.methods method found)
  field := clear_of_isName (clear.methods method found).field
  bodySpace := clear_of_blank fits.body
  args := by
    intro text member
    obtain ⟨param, handed, rfl⟩ := List.mem_map.1 member
    exact clear_of_isName (((clear.methods method found).args param handed).name
      (arguments_named handed))

omit fits in
theorem mockMethod_fill (interface : String) (first : Bool) (method : Method) :
    mockMethod spacing interface first (method.fill placeholder) =
      (mockMethod spacing interface first method).fill placeholder := by
  have returns : (method.fill placeholder).returns.isEmpty = method.returns.isEmpty := by
    simp [Method.fill]
  have receiver : Forwarding.receiver interface (Forwarding.arguments (method.fill placeholder))
      (method.fill placeholder).returns =
        Forwarding.receiver interface (Forwarding.arguments method) method.returns := by
    rw [arguments_fill, Method.fill, receiver_fill]
  simp only [mockMethod, MockMethod.fill, methodSignature_fill placeholder even, returns, receiver]
  rw [arguments_fill, fill_names]
  rfl

theorem mock_fill {interface : Interface} (clear : InterfaceClear interface) (first : Bool) :
    (mock spacing first interface).map (fillTree placeholder) =
      mock spacing first (interface.fill placeholder) := by
  have struct := struct_fill placeholder fits even clear.methods
  have named := clear_of_isName clear.struct
  have methods : ((spread (mockMethod spacing interface.name) interface.methods).map
        MockMethod.tree).map (fillTree placeholder) =
      (spread (mockMethod spacing interface.name)
        (interface.methods.map (Method.fill placeholder))).map MockMethod.tree := by
    have each (first : Bool) {method : Method} (found : method ∈ interface.methods) :
        fillTree placeholder (mockMethod spacing interface.name first method).tree =
          (mockMethod spacing interface.name first (method.fill placeholder)).tree := by
      rw [mockMethod_fill placeholder even]
      exact fillTree_mockMethod placeholder (mockMethod_clear placeholder fits even clear first found)
    cases listed : interface.methods with
    | nil => rfl
    | cons method rest =>
        rw [listed] at each
        simp only [spread, List.map_cons, List.map_map, each true List.mem_cons_self]
        congr 1
        refine List.map_congr_left fun other member => ?_
        exact each false (List.mem_cons_of_mem _ member)
  simp only [mock, List.map_cons, methods]
  simp [Written.typeDeclaration, struct, named, Interface.fill]

omit fits even in
theorem importTree_fill {entries : List (String × String)}
    (clear : ∀ entry ∈ entries, EntryClear entry) :
    fillTree placeholder (importTree spacing entries) = importTree spacing entries := by
  have labels : ∀ line ∈ entries.map (importLine spacing), Clear line.label := by
    intro line member
    obtain ⟨entry, found, rfl⟩ := List.mem_map.1 member
    exact (clear entry found).label
  have lines : (entries.map (importLine spacing)).map (ImportLine.fill placeholder) =
      entries.map (importLine spacing) := by
    rw [List.map_map]
    refine List.map_congr_left fun entry found => ?_
    simp [importLine, ImportLine.fill, protect_clear (clear entry found).path]
  rw [importTree, fillTree_imports placeholder _ _ labels, lines]

theorem body_fill {interfaces : List Interface}
    (clear : ∀ interface ∈ interfaces, InterfaceClear interface) :
    ((spread (mock spacing) interfaces).flatten).map (fillTree placeholder) =
      (spread (mock spacing) (interfaces.map (Interface.fill placeholder))).flatten := by
  rw [List.map_flatten]
  cases interfaces with
  | nil => rfl
  | cons interface rest =>
      have here := mock_fill placeholder fits even (clear _ List.mem_cons_self) true
      simp only [spread, List.map_cons, List.map_map, here]
      congr 2
      refine List.map_congr_left fun other member => ?_
      exact mock_fill placeholder fits even (clear _ (List.mem_cons_of_mem _ member)) false

section Files

variable {entries? : Option (List (String × String))}
  (labels : ∀ entries ∈ entries?, ∀ entry ∈ entries, EntryClear entry)
  {interfaces : List Interface} (clear : ∀ interface ∈ interfaces, InterfaceClear interface)

include labels clear

/-- Filling the trees of a mocks file is filling what it is made from. -/
theorem restTrees_fill :
    (restTrees spacing entries? interfaces).map (fillTree placeholder) =
      restTrees spacing entries? (interfaces.map (Interface.fill placeholder)) := by
  have body := body_fill placeholder fits even clear
  cases entries? with
  | none => exact body
  | some entries =>
      have list : fillTree placeholder (importTree spacing entries) = importTree spacing entries :=
        importTree_fill placeholder (labels entries rfl)
      simp [restTrees, body, list]

/-- The tokens of a mocks file are unrecognised types, or have nothing to do with one. -/
theorem restTrees_separate :
    ∀ tree ∈ restTrees spacing entries? interfaces, ∀ token ∈ tree.tokens, Separate token := by
  intro tree member
  rcases mem_restTrees spacing member with ⟨entries, found, rfl⟩ | ⟨first, interface, found, among⟩
  · have traced : TreeTraced (entries.map Prod.fst) (importTree spacing entries) := by
      refine treeTraced_imports _ (clear_of_blank fits.importKeyword.blank)
        (clear_of_blank (fits.importEnd _)) (fun line among => ?_) fun line among => ?_
      · obtain ⟨entry, listed, rfl⟩ := List.mem_map.1 among
        exact ⟨clear_of_blank (fits.importLine _).blank, (labels entries found entry listed).label⟩
      · obtain ⟨entry, listed, rfl⟩ := List.mem_map.1 among
        exact List.mem_map_of_mem listed
    refine fun token member => ⟨(traced token member).lead, (traced token member).clear ?_⟩
    intro path among
    obtain ⟨entry, listed, rfl⟩ := List.mem_map.1 among
    exact (labels entries found entry listed).path
  · have clear := clear interface found
    have traced : TreeTraced [] tree := by
      rcases List.mem_cons.1 among with rfl | later
      · have inside : TreeTraced [] (struct spacing interface.methods) :=
          treeTraced_structType _ (clear_of_blank (fits.brace _)) (clear_of_blank (fits.braceEnd _))
            (struct_clear placeholder fits even clear.methods)
        simp [Written.typeDeclaration, inside, clear_of_blank (fits.typeKeyword first).blank,
          clear_of_isName clear.struct]
      · obtain ⟨written, spreads, rfl⟩ := List.mem_map.1 later
        obtain ⟨start, method, found, rfl⟩ := mem_spread spreads
        exact treeTraced_mockMethod _ (mockMethod_clear placeholder fits even clear start found)
    exact fun token member => ⟨(traced token member).lead, (traced token member).clear (by simp)⟩

end Files

end Clear

end Files

end Mock

end InterfaceMocks
