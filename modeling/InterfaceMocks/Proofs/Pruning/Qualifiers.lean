import InterfaceMocks.Proofs.Mock.Filling
import InterfaceMocks.Proofs.Written.Contents
import InterfaceMocks.Pruning.UnusedImports

/-!
The names that stand before a dot in a mocks file: the packages of the types in it, and the receiver
of each method, which calls a field of its own.
-/

namespace InterfaceMocks

namespace TypeExpr

def qualifiers : TypeExpr → List String
  | named _ => []
  | qualified package _ => [package]
  | pointer inner => inner.qualifiers
  | array _ element => element.qualifiers
  | unrecognised => []

theorem qualifiers_fill (placeholder : String) (expr : TypeExpr) :
    (expr.fill placeholder).qualifiers = expr.qualifiers := by
  induction expr with
  | pointer inner ih => exact ih
  | array length element ih => exact ih
  | _ => rfl

end TypeExpr

def paramQualifiers (params : List Param) : List String :=
  params.flatMap fun param => param.type.qualifiers

def Method.qualifiers (method : Method) : List String :=
  paramQualifiers method.args ++ paramQualifiers method.returns

def Interface.mockQualifiers (interface : Interface) : List String :=
  interface.methods.flatMap Method.qualifiers
    ++ interface.methods.flatMap fun method => method.qualifiers
      ++ [Forwarding.receiver interface.name (Forwarding.arguments method) method.returns]

namespace Pruning

open InterfaceMocks.Syntax
open InterfaceMocks.Written
open InterfaceMocks.Mock
open Mock.Spacing (canonical)

@[simp] theorem qualifiers_leaf (kind : Kind) (role : Role) (token : Token) :
    qualifiers (.leaf kind role token) = [] := rfl

@[simp] theorem qualifiers_mark (space text : String) : qualifiers (mark space text) = [] := rfl

@[simp] theorem qualifiers_keyword (space text : String) :
    qualifiers (keyword space text) = [] := rfl

@[simp] theorem qualifiers_name (kind : Kind) (role : Role) (space text : String) :
    qualifiers (name kind role space text) = [] := rfl

@[simp] theorem qualifiersOf_nil : qualifiersOf [] = [] := rfl

@[simp] theorem qualifiersOf_cons (tree : Tree) (rest : List Tree) :
    qualifiersOf (tree :: rest) = qualifiers tree ++ qualifiersOf rest := by
  rw [qualifiersOf]

theorem qualifiersOf_eq_flatMap (trees : List Tree) :
    qualifiersOf trees = trees.flatMap qualifiers := by
  induction trees with
  | nil => rfl
  | cons tree rest ih => rw [qualifiersOf_cons, List.flatMap_cons, ih]

@[simp] theorem qualifiersOf_append (first second : List Tree) :
    qualifiersOf (first ++ second) = qualifiersOf first ++ qualifiersOf second := by
  simp [qualifiersOf_eq_flatMap]

theorem qualifiers_node (kind : Kind) (role : Role) (children : List Tree) :
    qualifiers (.node kind role children) =
      (ownQualifier kind children).toList ++ qualifiersOf children := by
  rw [qualifiers]

/-! Written constructs. -/

theorem qualifiers_type (role : Role) (space : String) (expr : TypeExpr) :
    qualifiers (type role space expr) = expr.qualifiers := by
  induction expr generalizing role space with
  | named text => rfl
  | qualified package text =>
      simp [type, qualifiers_node, ownQualifier, Tree.textAt, TypeExpr.qualifiers]
  | pointer inner ih => simp [type, qualifiers_node, ownQualifier, ih, TypeExpr.qualifiers]
  | array length element ih =>
      cases length <;>
        simp [type, qualifiers_node, ownQualifier, ih, TypeExpr.qualifiers, Written.length]
  | unrecognised => rfl

theorem qualifiers_slot (slot : Slot) : qualifiers slot.tree = slot.type.qualifiers := by
  obtain ⟨space, names, expr⟩ := slot
  cases names with
  | nil => simp [Slot.tree, Slot.trees, qualifiers_node, ownQualifier, qualifiers_type]
  | cons first names =>
      have none : qualifiersOf (names.flatMap fun text =>
          [mark "" ",", name .identifier .name " " text]) = [] := by
        simp [qualifiersOf_eq_flatMap, List.flatMap_assoc]
      simp [Slot.tree, Slot.trees, qualifiers_node, ownQualifier, qualifiers_type, none]

def slotQualifiers (slots : List Slot) : List String :=
  slots.flatMap fun slot => slot.type.qualifiers

theorem qualifiers_parameters (role : Role) (space : String) (slots : List Slot) :
    qualifiers (parameters role space slots) = slotQualifiers slots := by
  have listed : qualifiersOf (commas (slots.map Slot.tree)) = slotQualifiers slots := by
    cases slots with
    | nil => rfl
    | cons slot slots =>
        have later : qualifiersOf ((slots.map Slot.tree).flatMap fun tree => [mark "" ",", tree]) =
            slotQualifiers slots := by
          simp [qualifiersOf_eq_flatMap, List.flatMap_assoc, List.flatMap_map, qualifiers_slot,
            slotQualifiers]
        simp [commas, qualifiers_slot, later, slotQualifiers]
  simp [parameters, qualifiers_node, ownQualifier, listed]

def resultQualifiers : Result → List String
  | .none => []
  | .lone _ type => type.qualifiers
  | .list _ slots => slotQualifiers slots

theorem qualifiersOf_signature (signature : Signature) :
    qualifiersOf signature.trees =
      slotQualifiers signature.args ++ resultQualifiers signature.result := by
  cases result : signature.result <;>
    simp [Signature.trees, result, Result.trees, qualifiers_parameters, qualifiers_type,
      resultQualifiers]

theorem qualifiers_call (space receiver field : String) (args : List String) :
    qualifiers (call space receiver field args) = [receiver] := by
  have none : qualifiersOf (arguments args) = [] := by
    cases args with
    | nil => rfl
    | cons first more =>
        simp [arguments, qualifiersOf_eq_flatMap, List.flatMap_assoc]
  simp [call, qualifiers_node, ownQualifier, none]

theorem qualifiers_block (role : Role) (space : String) (returns : Bool) (receiver field : String)
    (args : List String) :
    qualifiers (block role space returns receiver field args) = [receiver] := by
  cases returns <;> simp [block, statement, qualifiers_node, ownQualifier, qualifiers_call]

theorem qualifiers_mockMethod (method : MockMethod) :
    qualifiers method.tree = qualifiersOf method.signature.trees ++ [method.receiver] := by
  simp [MockMethod.tree, qualifiers_node, ownQualifier, qualifiers_parameters, qualifiers_block,
    slotQualifiers, TypeExpr.qualifiers]

theorem qualifiers_structType (before after : String) (fields : List Field) :
    qualifiers (structType before fields after) =
      fields.flatMap fun field => qualifiersOf field.signature.trees := by
  have each (field : Field) : qualifiers field.tree = qualifiersOf field.signature.trees := by
    simp [Field.tree, functionType, qualifiers_node, ownQualifier]
  simp [structType, qualifiers_node, ownQualifier, qualifiersOf_eq_flatMap (fields.map _),
    List.flatMap_map, each]

theorem qualifiers_imports (space after : String) (lines : List ImportLine) :
    qualifiers (imports space lines after) = [] := by
  have each (line : ImportLine) : qualifiers line.tree = [] := by
    simp only [ImportLine.tree, ImportLine.trees, ImportLine.path?, qualifiers_node]
    split
    · rfl
    · split
      · rfl
      · split <;> rfl
  simp [imports, qualifiers_node, ownQualifier, qualifiersOf_eq_flatMap (lines.map _),
    List.flatMap_map, each]

/-! Mocks files. -/

theorem paramQualifiers_eq (params : List Param) :
    paramQualifiers params = (params.map Param.type).flatMap TypeExpr.qualifiers := by
  simp [paramQualifiers, List.flatMap_map]

theorem slotQualifiers_spread (spacing : Spacing) (params : List Param) :
    slotQualifiers (spread (slot spacing) params) = paramQualifiers params := by
  have each (first : Bool) (param : Param) : (slot spacing first param).type = param.type := by
    by_cases unnamed : param.name = "" <;> simp [slot, unnamed]
  cases params with
  | nil => rfl
  | cons param params =>
      simp [slotQualifiers, spread, List.flatMap_map, each, paramQualifiers]

theorem resultQualifiers_canonical (slots : List Slot) :
    resultQualifiers (canonicalResult slots) = slotQualifiers slots := by
  unfold canonicalResult
  split
  · rfl
  · simp [resultQualifiers, slotQualifiers]
  · rfl

theorem qualifiersOf_methodSignature (method : Method) :
    qualifiersOf (methodSignature canonical method).trees = method.qualifiers := by
  have args : slotQualifiers (methodSignature canonical method).args =
      paramQualifiers method.args := by
    rw [methodSignature, signature, slotQualifiers_spread, paramQualifiers_eq, arguments_types,
      paramQualifiers_eq]
  have result : (methodSignature canonical method).result =
      canonicalResult (spread (slot canonical) method.returns) := rfl
  rw [qualifiersOf_signature, args, result, resultQualifiers_canonical, slotQualifiers_spread,
    Method.qualifiers]

theorem qualifiersOf_mock (first : Bool) (interface : Interface) :
    qualifiersOf (mock canonical first interface) = interface.mockQualifiers := by
  have struct : qualifiers (struct canonical interface.methods) =
      interface.methods.flatMap Method.qualifiers := by
    rw [Mock.struct, qualifiers_structType, List.flatMap_map]
    exact List.flatMap_congr fun method _ => qualifiersOf_methodSignature method
  have each (first : Bool) (method : Method) :
      qualifiers (mockMethod canonical interface.name first method).tree = method.qualifiers
        ++ [Forwarding.receiver interface.name (Forwarding.arguments method) method.returns] := by
    rw [qualifiers_mockMethod, ← qualifiersOf_methodSignature]
    rfl
  have methods : qualifiersOf ((spread (mockMethod canonical interface.name)
      interface.methods).map MockMethod.tree) = interface.methods.flatMap fun method =>
        method.qualifiers
          ++ [Forwarding.receiver interface.name (Forwarding.arguments method) method.returns] := by
    rw [qualifiersOf_eq_flatMap, List.flatMap_map]
    cases interface.methods with
    | nil => rfl
    | cons method methods => simp [spread, each, List.flatMap_map]
  rw [mock, qualifiersOf_cons, methods, Interface.mockQualifiers]
  simp [typeDeclaration, qualifiers_node, ownQualifier, struct]

/-- The qualifiers of a mocks file are those of its mocks, whatever it imports. -/
theorem qualifiersOf_restTrees (name : String) (entries? : Option (List (String × String)))
    (interfaces : List Interface) :
    qualifiersOf (Written.package name :: restTrees canonical entries? interfaces) =
      interfaces.flatMap Interface.mockQualifiers := by
  have clause : qualifiers (Written.package name) = [] := rfl
  have header : qualifiersOf (entries?.map (importTree canonical)).toList = [] := by
    cases entries? <;> simp [importTree, qualifiers_imports]
  have body : qualifiersOf (spread (mock canonical) interfaces).flatten =
      interfaces.flatMap Interface.mockQualifiers := by
    have each (first : Bool) (interface : Interface) :
        (mock canonical first interface).flatMap qualifiers = interface.mockQualifiers := by
      rw [← qualifiersOf_eq_flatMap, qualifiersOf_mock]
    rw [qualifiersOf_eq_flatMap]
    cases interfaces with
    | nil => rfl
    | cons interface interfaces =>
        rw [spread, List.flatten_cons, List.flatMap_append, each, ← List.flatMap_def,
          List.flatMap_assoc, List.flatMap_cons]
        simp only [each]
  rw [qualifiersOf_cons, clause, restTrees, qualifiersOf_append, header, body]
  rfl

theorem mockQualifiers_fill (placeholder : String) (interface : Interface) :
    (interface.fill placeholder).mockQualifiers = interface.mockQualifiers := by
  have params (list : List Param) :
      paramQualifiers (list.map (Param.fill placeholder)) = paramQualifiers list := by
    simp [paramQualifiers, List.flatMap_map, Param.fill, TypeExpr.qualifiers_fill]
  have each (method : Method) : (method.fill placeholder).qualifiers = method.qualifiers := by
    simp only [Method.qualifiers, Method.fill, params]
  have receiver (method : Method) : Forwarding.receiver interface.name
      (Forwarding.arguments (method.fill placeholder)) (method.fill placeholder).returns =
        Forwarding.receiver interface.name (Forwarding.arguments method) method.returns := by
    rw [arguments_fill, Method.fill, receiver_fill]
  simp only [Interface.mockQualifiers, Interface.fill, List.flatMap_map, each, receiver]

end Pruning

end InterfaceMocks
