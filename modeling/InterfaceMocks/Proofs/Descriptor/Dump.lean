import InterfaceMocks.Descriptor.Reading
import InterfaceMocks.Proofs.Json.RoundTrip
import InterfaceMocks.Proofs.Loading.Merging

/-!
The dump of a descriptor loses nothing: the package is read back from it as it was, whatever texts
it holds and however deep its types are.
-/

namespace InterfaceMocks

open InterfaceMocks.Json
open InterfaceMocks.Codec

/-! What is written for a descriptor is made from strings. -/

namespace TypeExpr

theorem textual (expr : TypeExpr) : Textual expr.toJson := by
  induction expr with
  | pointer inner ih => simpa [toJson] using ih
  | array length element ih => cases length <;> simpa [toJson] using ih
  | _ => simp [toJson]

end TypeExpr

theorem Param.textual (param : Param) : Textual param.toJson := by
  simpa [toJson] using param.type.textual

theorem Method.textual (method : Method) : Textual method.toJson := by
  simpa [toJson] using ⟨fun param _ => param.textual, fun param _ => param.textual⟩

theorem Interface.textual (interface : Interface) : Textual interface.toJson := by
  simpa [toJson] using fun method _ => method.textual

theorem Package.textual (package : Package) : Textual package.toJson := by
  have imports : Textual (.object (package.imports.entries.map fun entry =>
      (entry.1, .string entry.2))) := .object <| List.forall_mem_map.2 fun entry _ => .string entry.2
  have interfaces : Textual (.array (package.interfaces.map Interface.toJson)) :=
    .array <| List.forall_mem_map.2 fun interface _ => interface.textual
  exact .object <| by simp only [List.forall_mem_cons, textual_string, imports, interfaces,
    List.not_mem_nil, false_imp_iff, implies_true, and_self]

/-! Each record is read back from its fields. -/

/-- What is read back one by one is read back as a list. -/
theorem mapM_map {α β : Type} {write : α → β} {read? : β → Option α}
    (each : ∀ item, read? (write item) = some item) (items : List α) :
    (items.map write).mapM read? = some items := by
  induction items with
  | nil => rfl
  | cons item items ih => simp [each, ih]

theorem TypeExpr.read_toJson (within : Bool) (expr : TypeExpr) :
    read? within expr.toJson = some expr := by
  induction expr generalizing within with
  | named name => simp [toJson, read?, kind?, List.lookup_cons, Value.string?]
  | qualified package name => simp [toJson, read?, kind?, List.lookup_cons, Value.string?]
  | pointer inner ih => simp [toJson, read?, readField?, kind?, ih]
  | array length element ih =>
      cases length <;> simp [toJson, read?, readField?, kind?, List.lookup_cons, optionalString?, ih]
  | unrecognised => simp [toJson, read?, kind?]

theorem Param.ofJson_toJson (param : Param) : ofJson? param.toJson = some param := by
  simp [ofJson?, toJson, stringField?, field?, List.lookup_cons, Value.string?, TypeExpr.ofJson?,
    TypeExpr.read_toJson]

theorem Method.ofJson_toJson (method : Method) : ofJson? method.toJson = some method := by
  have params := mapM_map Param.ofJson_toJson
  simp [ofJson?, toJson, stringField?, listField?, field?, List.lookup_cons, Value.string?, Value.array?,
    params]

theorem Interface.ofJson_toJson (interface : Interface) :
    ofJson? interface.toJson = some interface := by
  have methods := mapM_map Method.ofJson_toJson
  simp [ofJson?, toJson, stringField?, listField?, field?, List.lookup_cons, Value.string?, Value.array?,
    methods]

theorem strings_object (entries : List (String × String)) :
    strings? (.object (entries.map fun entry => (entry.1, .string entry.2))) = some entries := by
  refine mapM_map ?_ entries
  exact fun entry => rfl

theorem Package.ofJson_toJson (package : Package) : ofJson? package.toJson = some package := by
  have interfaces := mapM_map Interface.ofJson_toJson
  simp [ofJson?, toJson, stringField?, listField?, field?, List.lookup_cons, Value.string?, Value.array?,
    interfaces, strings_object, Imports.extend_entries]

/-- The package is read back from its dump. -/
theorem Package.ofText_dump (package : Package) : Package.ofText? package.dump = some package := by
  rw [ofText?, dump, Value.ofText_pretty package.textual]
  exact package.ofJson_toJson

end InterfaceMocks
