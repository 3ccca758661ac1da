import InterfaceMocks.Layout.Types
import InterfaceMocks.Mock.Emission
import InterfaceMocks.Proofs.Written.Texts

/-!
The trees of a mocks file. The file is emitted with one white space and laid out with another, which
is all that `Spacing` tells apart; `mocks` gives the declarations for either.
-/

namespace InterfaceMocks.Mock

open InterfaceMocks.Syntax
open InterfaceMocks.Written

/-- The white space of a mocks file, before the tokens that need not have one space. -/
structure Spacing where
  importKeyword : String
  importLine : (label : String) → String
  importEnd : (none : Bool) → String
  typeKeyword : (first : Bool) → String
  brace : (none : Bool) → String
  braceEnd : (none : Bool) → String
  field : String
  fieldType : (width : Nat) → (name : String) → String
  -- before the type of a parameter without a name
  unnamed : String
  -- how results are written, given their slots
  result : List Slot → Result
  func : (first : Bool) → String
  body : String

def Spacing.emitted : Spacing where
  importKeyword := "\n"
  importLine label := if label = "" then "\n " else "\n"
  importEnd _ := "\n"
  typeKeyword first := if first then "\n" else "\n\n"
  brace _ := " "
  braceEnd _ := "\n"
  field := "\n"
  fieldType _ _ := " "
  unnamed := " "
  result slots := .list " " slots
  func _ := "\n"
  body := "\n"

def canonicalResult : List Slot → Result
  | [] => .none
  | [⟨_, [], type⟩] => .lone " " type
  | slots => .list " " slots

def Spacing.canonical : Spacing where
  importKeyword := "\n\n"
  importLine _ := "\n\t"
  importEnd none := if none then "" else "\n"
  typeKeyword _ := "\n\n"
  brace none := if none then "" else " "
  braceEnd none := if none then "" else "\n"
  field := "\n\t"
  fieldType width name := Layout.spaces (width - name.length) ++ " "
  unnamed := ""
  result := canonicalResult
  func first := if first then "\n\n" else "\n"
  body := "\n\t"

/-- Makes something of each element, and tells the first from the others. -/
def spread {α β : Type} (f : (first : Bool) → α → β) : List α → List β
  | [] => []
  | a :: rest => f true a :: rest.map (f false)

theorem spread_map {α β γ : Type} (f : Bool → α → β) (g : β → γ) (list : List α) :
    (spread f list).map g = spread (fun first a => g (f first a)) list := by
  cases list <;> simp [spread]

theorem spread_const {α β : Type} (f : α → β) (list : List α) :
    spread (fun _ => f) list = list.map f := by
  cases list <;> rfl

/-- What one function makes of a place, and what another makes of it. -/
theorem exists_spread {α β γ : Type} {f : Bool → α → β} (g : Bool → α → γ) {list : List α} {b : β}
    (member : b ∈ spread f list) :
    ∃ first, ∃ a ∈ list, b = f first a ∧ g first a ∈ spread g list := by
  cases list with
  | nil => simp [spread] at member
  | cons a rest =>
      rcases List.mem_cons.1 member with rfl | later
      · exact ⟨true, a, List.mem_cons_self, rfl, List.mem_cons_self⟩
      · obtain ⟨a, found, rfl⟩ := List.mem_map.1 later
        exact ⟨false, a, List.mem_cons_of_mem _ found, rfl,
          List.mem_cons_of_mem _ (List.mem_map_of_mem found)⟩

theorem mem_spread {α β : Type} {f : Bool → α → β} {list : List α} {b : β}
    (member : b ∈ spread f list) : ∃ first, ∃ a ∈ list, b = f first a := by
  obtain ⟨first, a, found, same, -⟩ := exists_spread f member
  exact ⟨first, a, found, same⟩

section Trees

variable (spacing : Spacing)

def slot (first : Bool) (param : Param) : Slot :=
  let space := if first then "" else " "
  if param.name = "" then ⟨space ++ spacing.unnamed, [], param.type⟩
  else ⟨space, [param.name], param.type⟩

def signature (args returns : List Param) : Signature :=
  ⟨spread (slot spacing) args, spacing.result (spread (slot spacing) returns)⟩

def methodSignature (method : Method) : Signature :=
  signature spacing (Forwarding.arguments method) method.returns

def fieldWidth (methods : List Method) : Nat :=
  (methods.map fun method => (Naming.fieldName method.name).length).foldl max 0

def field (width : Nat) (method : Method) : Field where
  space := spacing.field
  name := Naming.fieldName method.name
  typeSpace := spacing.fieldType width (Naming.fieldName method.name)
  signature := methodSignature spacing method

def struct (methods : List Method) : Tree :=
  structType (spacing.brace methods.isEmpty) (methods.map (field spacing (fieldWidth methods)))
    (spacing.braceEnd methods.isEmpty)

def mockMethod (interface : String) (first : Bool) (method : Method) : MockMethod where
  space := spacing.func first
  receiver := Forwarding.receiver interface (Forwarding.arguments method) method.returns
  owner := Naming.structName interface
  name := method.name
  signature := methodSignature spacing method
  field := Naming.fieldName method.name
  bodySpace := spacing.body
  returns := !method.returns.isEmpty
  args := (Forwarding.arguments method).map Param.name

def mock (first : Bool) (interface : Interface) : List Tree :=
  typeDeclaration (spacing.typeKeyword first) (Naming.structName interface.name)
      (struct spacing interface.methods)
    :: (spread (mockMethod spacing interface.name) interface.methods).map MockMethod.tree

def importLine (entry : String × String) : ImportLine :=
  ⟨spacing.importLine entry.2, entry.2, entry.1⟩

def fileTrees (name : String) (entries : List (String × String)) (interfaces : List Interface) :
    List Tree :=
  Written.package name
    :: imports spacing.importKeyword (entries.map (importLine spacing))
        (spacing.importEnd entries.isEmpty)
    :: (spread (mock spacing) interfaces).flatten

def mocks (package : Package) : List Tree :=
  fileTrees spacing package.name package.imports.entries package.interfaces

def importTree (entries : List (String × String)) : Tree :=
  imports spacing.importKeyword (entries.map (importLine spacing))
    (spacing.importEnd entries.isEmpty)

/-- The declarations of a mocks file after its package clause; those of a pruned file need not import
anything. -/
def restTrees (entries? : Option (List (String × String))) (interfaces : List Interface) :
    List Tree :=
  (entries?.map (importTree spacing)).toList ++ (spread (mock spacing) interfaces).flatten

theorem fileTrees_eq (name : String) (entries : List (String × String))
    (interfaces : List Interface) :
    fileTrees spacing name entries interfaces =
      Written.package name :: restTrees spacing (some entries) interfaces := rfl

theorem mem_restTrees {entries? : Option (List (String × String))} {interfaces : List Interface}
    {tree : Tree} (member : tree ∈ restTrees spacing entries? interfaces) :
    (∃ entries ∈ entries?, tree = importTree spacing entries)
      ∨ ∃ first, ∃ interface ∈ interfaces, tree ∈ mock spacing first interface := by
  rcases List.mem_append.1 member with listed | member
  · rw [Option.mem_toList, Option.map_eq_some_iff] at listed
    obtain ⟨entries, found, rfl⟩ := listed
    exact .inl ⟨entries, found, rfl⟩
  · obtain ⟨trees, among, member⟩ := List.mem_flatten.1 member
    obtain ⟨first, interface, found, rfl⟩ := mem_spread among
    exact .inr ⟨first, interface, found, member⟩

end Trees

/-! The emitted text is that of the trees with emitted white space. -/

section Emitted

open Spacing (emitted)

def paramText (spacing : Spacing) (param : Param) : String :=
  if param.name = "" then spacing.unnamed ++ param.type.render
  else param.name ++ " " ++ param.type.render

theorem written_slots (spacing : Spacing) (params : List Param) :
    ",".intercalate ((spread (slot spacing) params).map fun slot => slot.space ++ slot.text) =
      ", ".intercalate (params.map (paramText spacing)) := by
  have each (first : Bool) (param : Param) :
      (slot spacing first param).space ++ (slot spacing first param).text =
        (if first then "" else " ") ++ paramText spacing param := by
    by_cases unnamed : param.name = ""
    · simp [slot, paramText, Slot.text, unnamed, String.append_assoc]
    · simp [slot, paramText, Slot.text, unnamed, String.append_assoc]
  cases params with
  | nil => rfl
  | cons first rest =>
      simp only [spread, List.map_cons, List.map_map, Function.comp_def, each, intercalate_cons,
        if_true]
      have comma (text : String) : "," ++ (" " ++ text) = ", " ++ text := by
        apply String.toList_injective
        simp
      simp [comma]

theorem writtenOf_methodSignature (method : Method) :
    writtenOf (methodSignature emitted method).trees =
      "(" ++ Emission.params (Forwarding.arguments method) ++ ") ("
        ++ Emission.params method.returns ++ ")" := by
  have text : paramText emitted = fun param => param.name ++ " " ++ param.type.render := by
    funext param
    by_cases unnamed : param.name = "" <;> simp [paramText, emitted, unnamed]
  have result (slots : List Slot) : emitted.result slots = .list " " slots := rfl
  rw [writtenOf_signature, methodSignature, signature, result, Result.text, written_slots,
    written_slots, text, Emission.params, Emission.params]
  apply String.toList_injective
  simp

/-- Line feeds before each construct are line feeds after each, and one before them all. -/
theorem writtenOf_shifted {α : Type} {tree : α → Tree} {text : α → String}
    (each : ∀ a, written (tree a) ++ "\n" = "\n" ++ text a) (list : List α) :
    writtenOf (list.map tree) ++ "\n" = "\n" ++ String.join (list.map text) := by
  induction list with
  | nil => simp
  | cons a list ih =>
      simp only [List.map_cons, writtenOf_cons, String.join_cons, String.append_assoc, ih]
      rw [← String.append_assoc, each, String.append_assoc]

theorem written_field (width : Nat) (method : Method) :
    written (field emitted width method).tree ++ "\n" = "\n" ++ Emission.structField method := by
  have inside := writtenOf_methodSignature method
  have space : emitted.field = "\n" := rfl
  have typeSpace (name : String) : emitted.fieldType width name = " " := rfl
  have text : written (field emitted width method).tree =
      "\n" ++ Naming.fieldName method.name ++ " " ++ "func"
        ++ writtenOf (methodSignature emitted method).trees := by
    simp only [Field.tree, field, functionType, written_node, writtenOf_cons, written_name,
      written_keyword, writtenOf_nil, space, typeSpace, String.append_assoc, String.append_empty]
  rw [text, inside, Emission.structField]
  apply String.toList_injective
  simp

theorem written_struct (space : String) (interface : Interface) :
    written (typeDeclaration space (Naming.structName interface.name)
        (struct emitted interface.methods)) ++ "\n" =
      space ++ Emission.struct interface := by
  have fields := writtenOf_shifted (written_field (fieldWidth interface.methods)) interface.methods
  have text : written (typeDeclaration space (Naming.structName interface.name)
        (struct emitted interface.methods)) ++ "\n" =
      space ++ "type" ++ (" " ++ Naming.structName interface.name) ++ (" " ++ "struct")
        ++ (" " ++ "\x7b")
        ++ (writtenOf (interface.methods.map fun method =>
              (field emitted (fieldWidth interface.methods) method).tree) ++ "\n")
        ++ "\x7d" ++ "\n" := by
    have before (none : Bool) : emitted.brace none = " " := rfl
    have after (none : Bool) : emitted.braceEnd none = "\n" := rfl
    simp only [typeDeclaration, struct, structType, written_node, writtenOf_cons, written_name,
      written_keyword, written_mark, writtenOf_nil, writtenOf_append, before, after, List.map_map,
      Function.comp_def, String.append_assoc, String.append_empty, List.cons_append]
  rw [text, fields, Emission.struct]
  apply String.toList_injective
  simp

theorem written_block (space : String) (returns : Bool) (receiver field : String)
    (args : List String) :
    written (block .body space returns receiver field args) =
      " \x7b" ++ space ++ ((if returns then "return " else "") ++ receiver ++ "." ++ field ++ "("
        ++ ", ".intercalate args ++ ")") ++ "\n\x7d" := by
  apply String.toList_injective
  cases returns <;> simp [block, statement, written_call]

theorem written_mockMethod (method : MockMethod) :
    written method.tree =
      method.space ++ "func (" ++ method.receiver ++ " " ++ method.owner ++ ") " ++ method.name
        ++ writtenOf method.signature.trees ++ " \x7b" ++ method.bodySpace
        ++ ((if method.returns then "return " else "") ++ method.receiver ++ "." ++ method.field
          ++ "(" ++ ", ".intercalate method.args ++ ")") ++ "\n\x7d" := by
  have receiver : written (parameters .receiver " "
      [⟨"", [method.receiver], .named method.owner⟩]) =
        " (" ++ method.receiver ++ " " ++ method.owner ++ ")" := by
    apply String.toList_injective
    simp [written_parameters, Slot.text, TypeExpr.render]
  simp only [MockMethod.tree, written_node, writtenOf_append, writtenOf_cons, written_keyword,
    written_name, writtenOf_nil, receiver, written_block, String.append_empty]
  apply String.toList_injective
  simp

theorem written_method (interface : String) (first : Bool) (method : Method) :
    written (mockMethod emitted interface first method).tree ++ "\n" =
      "\n" ++ Emission.method interface method := by
  have inside := writtenOf_methodSignature method
  have space : emitted.func first = "\n" := rfl
  have body : emitted.body = "\n" := rfl
  rw [written_mockMethod]
  simp only [mockMethod, inside, space, body]
  unfold Emission.method
  extract_lets args self
  apply String.toList_injective
  cases method.returns.isEmpty <;> simp [args, self]

theorem written_importLine_emitted (entry : String × String) :
    written (importLine emitted entry).tree ++ "\n" =
      "\n" ++ (entry.2 ++ " \x22" ++ entry.1 ++ "\x22\n") := by
  have space : emitted.importLine entry.2 = if entry.2 = "" then "\n " else "\n" := rfl
  rw [written_importLine, importLine, space]
  apply String.toList_injective
  by_cases unnamed : entry.2 = "" <;> simp [unnamed, quoted]

theorem written_imports (list : Imports) :
    written (imports (emitted.importKeyword) (list.entries.map (importLine emitted))
        (emitted.importEnd list.entries.isEmpty)) ++ "\n" =
      "\n" ++ Emission.imports list := by
  have lines := writtenOf_shifted written_importLine_emitted list.entries
  have keyword : emitted.importKeyword = "\n" := rfl
  have close (none : Bool) : emitted.importEnd none = "\n" := rfl
  have text : written (imports (emitted.importKeyword) (list.entries.map (importLine emitted))
        (emitted.importEnd list.entries.isEmpty)) =
      "\n" ++ "import" ++ (" " ++ "(")
        ++ (writtenOf (list.entries.map fun entry => (importLine emitted entry).tree) ++ "\n")
        ++ ")" := by
    simp only [imports, keyword, close, written_node, writtenOf_cons, written_keyword,
      written_mark, writtenOf_nil, writtenOf_append, List.map_map, Function.comp_def,
      List.cons_append, String.append_assoc, String.append_empty]
  rw [text, lines, Emission.imports]
  apply String.toList_injective
  simp

theorem writtenOf_mock (first : Bool) (interface : Interface) :
    writtenOf (mock emitted first interface) ++ "\n\n" =
      emitted.typeKeyword first ++ Emission.interface interface := by
  have struct := written_struct (emitted.typeKeyword first) interface
  have spreads : (spread (mockMethod emitted interface.name) interface.methods) =
      interface.methods.map (mockMethod emitted interface.name false) := by
    cases interface.methods <;> rfl
  have methods := writtenOf_shifted (written_method interface.name false) interface.methods
  have breaks : "\n\n" = "\n" ++ "\n" := rfl
  rw [mock, writtenOf_cons, spreads, List.map_map, Function.comp_def, breaks, Emission.interface]
  calc
    _ = written (typeDeclaration (emitted.typeKeyword first) (Naming.structName interface.name)
          (Mock.struct emitted interface.methods))
        ++ (writtenOf (interface.methods.map fun method =>
              (mockMethod emitted interface.name false method).tree) ++ "\n") ++ "\n" := by
      simp only [String.append_assoc]
    _ = _ := by
      rw [methods, ← String.append_assoc, struct]
      simp only [String.append_assoc]

def trailing (package : Package) : String := if package.interfaces.isEmpty then "\n" else "\n\n"

theorem writtenOf_interfaces (interfaces : List Interface) (some : interfaces ≠ []) :
    writtenOf (spread (mock emitted) interfaces).flatten ++ "\n\n" =
      "\n" ++ String.join (interfaces.map Emission.interface) := by
  have later (rest : List Interface) :
      "\n\n" ++ String.join (rest.map Emission.interface) =
        writtenOf (rest.map (mock emitted false)).flatten ++ "\n\n" := by
    induction rest with
    | nil => simp
    | cons interface rest ih =>
        have here := writtenOf_mock false interface
        have keyword : emitted.typeKeyword false = "\n\n" := rfl
        rw [keyword] at here
        rw [List.map_cons, String.join_cons, ← String.append_assoc, ← here, String.append_assoc, ih,
          List.map_cons, List.flatten_cons, writtenOf_append, String.append_assoc]
  obtain ⟨interface, rest, rfl⟩ := List.exists_cons_of_ne_nil some
  have here := writtenOf_mock true interface
  have keyword : emitted.typeKeyword true = "\n" := rfl
  rw [keyword] at here
  rw [spread, List.flatten_cons, writtenOf_append, List.map_cons, String.join_cons,
    String.append_assoc, ← later, ← String.append_assoc, here, String.append_assoc]

/-- The emitted text is that of the trees with the white space of emission. -/
theorem writtenOf_mocks_emitted (package : Package) :
    writtenOf (mocks emitted package) ++ trailing package = Emission.package package := by
  have list := written_imports package.imports
  have clause : written (Written.package package.name) = "package " ++ package.name := by
    apply String.toList_injective
    simp [Written.package]
  rw [mocks, fileTrees, writtenOf_cons, writtenOf_cons, clause, Emission.package]
  by_cases none : package.interfaces = []
  · simp only [none, spread, List.flatten_nil, writtenOf_nil, String.append_empty, trailing,
      List.isEmpty_nil, if_true, String.append_assoc, list, List.map_nil, String.join_nil]
  · have later := writtenOf_interfaces package.interfaces none
    have ends : trailing package = "\n\n" := by simp [trailing, none]
    have listed (rest : String) :
        written (imports emitted.importKeyword (package.imports.entries.map (importLine emitted))
            (emitted.importEnd package.imports.entries.isEmpty)) ++ ("\n" ++ rest) =
          "\n" ++ Emission.imports package.imports ++ rest := by
      rw [← String.append_assoc, list]
    calc
      _ = "package " ++ package.name
          ++ (written (imports emitted.importKeyword
                (package.imports.entries.map (importLine emitted))
                (emitted.importEnd package.imports.entries.isEmpty))
              ++ (writtenOf (spread (mock emitted) package.interfaces).flatten ++ "\n\n")) := by
        rw [ends]
        simp only [String.append_assoc]
      _ = _ := by
        rw [later, listed]
        simp only [String.append_assoc]

end Emitted

end InterfaceMocks.Mock
