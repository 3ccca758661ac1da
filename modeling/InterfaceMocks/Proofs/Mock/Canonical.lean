import InterfaceMocks.Proofs.Layout.Neighbours
import InterfaceMocks.Proofs.Mock.Trees

/-!
The layout of a mocks file: the trees with the white space of emission, or with any other that
settles, are laid out as the text of the same trees with canonical white space.
-/

namespace InterfaceMocks.Mock

open InterfaceMocks.Syntax
open InterfaceMocks.Written
open InterfaceMocks.Layout
open Spacing (emitted canonical)

/-! Signatures. -/

theorem slot_text (spacing : Spacing) (first : Bool) (param : Param) :
    (slot spacing first param).text = paramText canonical param := by
  have none : canonical.unnamed = "" := rfl
  by_cases unnamed : param.name = ""
  · simp [slot, paramText, Slot.text, unnamed, none]
  · simp [slot, paramText, Slot.text, unnamed]

theorem slots_text (spacing : Spacing) (params : List Param) :
    (spread (slot spacing) params).map Slot.text = params.map (paramText canonical) := by
  have each : (fun first param => (slot spacing first param).text) =
      fun _ => paramText canonical := by
    funext first param
    exact slot_text spacing first param
  rw [spread_map, each, spread_const]

theorem slot_names (spacing : Spacing) (first : Bool) (param : Param) :
    (slot spacing first param).names = if param.name = "" then [] else [param.name] := by
  by_cases unnamed : param.name = "" <;> simp [slot, unnamed]

/-- Results that are neither missing nor a type alone keep their parentheses. -/
theorem canonicalResult_list {slots : List Slot} (some : slots ≠ []) (listed : isLone slots = false) :
    canonicalResult slots = .list " " slots := by
  unfold canonicalResult
  split
  · exact absurd rfl some
  · simp [isLone] at listed
  · rfl

theorem isLone_slots (spacing : Spacing) (params : List Param) :
    isLone (spread (slot spacing) params) = isLone (spread (slot canonical) params) := by
  match params with
  | [] => rfl
  | [param] => simp [spread, isLone, slot_names]
  | _ :: _ :: _ => rfl

theorem canonicalResult_text (spacing : Spacing) (returns : List Param) :
    (canonicalResult (spread (slot canonical) returns)).text =
      (Result.list " " (spread (slot spacing) returns)).laid := by
  have texts := slots_text spacing returns
  have written := written_slots canonical returns
  have lone := isLone_slots spacing returns
  cases returns with
  | nil => rfl
  | cons param rest =>
      have some (spacing : Spacing) : spread (slot spacing) (param :: rest) ≠ [] := by
        simp [spread]
      cases listed : isLone (spread (slot canonical) (param :: rest)) with
      | false =>
          rw [canonicalResult_list (some canonical) listed, Result.text, Result.laid, written, texts,
            lone, listed]
          simp [spread]
      | true =>
          rw [Result.laid, texts, lone, listed]
          cases rest with
          | cons second rest => simp [spread, isLone] at listed
          | nil =>
              have unnamed : param.name = "" := by
                simpa [spread, isLone, slot_names] using listed
              have none : canonical.unnamed = "" := rfl
              simp [spread, slot, unnamed, canonicalResult, Result.text, paramText, none]

/-- Results that are laid out are laid out as they are. -/
theorem canonicalResult_laid (returns : List Param) :
    (canonicalResult (spread (slot canonical) returns)).laid =
      (canonicalResult (spread (slot canonical) returns)).text := by
  have listed := canonicalResult_text canonical returns
  generalize spread (slot canonical) returns = slots at listed
  match slots with
  | [] => rfl
  | [⟨_, [], _⟩] => rfl
  | [⟨_, _ :: _, _⟩] => exact listed.symm
  | _ :: _ :: _ =>
      rw [canonicalResult_list (by simp) rfl] at listed ⊢
      exact listed.symm

structure Spacing.Settles (spacing : Spacing) : Prop where
  result : ∀ returns, (spacing.result (spread (slot spacing) returns)).laid =
    (canonicalResult (spread (slot canonical) returns)).text
  func : (spacing.func false).toList.count '\n' = 1
  type : 2 ≤ (spacing.typeKeyword false).toList.count '\n'

theorem Spacing.emitted_settles : emitted.Settles where
  result returns := (canonicalResult_text emitted returns).symm
  func := by decide
  type := by decide

theorem Spacing.canonical_settles : canonical.Settles where
  result := canonicalResult_laid
  func := by decide
  type := by decide

section Settled

variable {spacing : Spacing} (settles : spacing.Settles)

include settles

theorem writtenOf_canonical_signature (method : Method) :
    writtenOf (methodSignature canonical method).trees = (methodSignature spacing method).laid := by
  have args := written_slots canonical (Forwarding.arguments method)
  have texts := slots_text spacing (Forwarding.arguments method)
  have result : canonical.result = canonicalResult := rfl
  rw [writtenOf_signature, Signature.laid, methodSignature, methodSignature, signature, signature,
    args, texts, result, settles.result]

/-! Declarations. -/

omit settles in
theorem written_field_canonical (width : Nat) (method : Method) :
    written (field canonical width method).tree =
      "\n" ++ "\t" ++ Naming.fieldName method.name
        ++ spaces (width - (Naming.fieldName method.name).length) ++ " "
        ++ ("func" ++ writtenOf (methodSignature canonical method).trees) := by
  have space : canonical.field = "\n" ++ "\t" := rfl
  have typeSpace (name : String) :
      canonical.fieldType width name = spaces (width - name.length) ++ " " := rfl
  simp only [Field.tree, field, functionType, written_node, writtenOf_cons, written_name,
    written_keyword, writtenOf_nil, space, typeSpace, String.append_assoc, String.append_empty]

omit settles in
theorem title_ne (word : String) (some : word ≠ "") (name : String) : word ++ name ≠ "" := by
  intro empty
  exact some (String.append_eq_empty_iff.1 empty).1

def fieldRow (method : Method) : FieldRow :=
  ⟨Naming.fieldName method.name, "func" ++ writtenOf (methodSignature canonical method).trees⟩

omit settles in
theorem written_fieldRow (width : Nat) (method : Method) :
    written (field canonical width method).tree ++ "\n" =
      "\n" ++ FieldRow.line 0 width (fieldRow method) := by
  have named : (fieldRow method).names ≠ "" := title_ne "m" (by decide) _
  have tab : tabs (0 + 1) = "\t" := rfl
  rw [written_field_canonical, FieldRow.line, if_neg named, tab]
  simp only [fieldRow, String.append_assoc]

omit settles in
theorem structText_rows {methods : List Method} (some : methods ≠ []) :
    structText 0 (methods.map fieldRow) =
      "struct \x7b\n"
        ++ String.join (methods.map fun method =>
            FieldRow.line 0 (fieldWidth methods) (fieldRow method))
        ++ "\x7d" := by
  have width : ((methods.map fieldRow).map fun row => row.names.length).foldl max 0 =
      fieldWidth methods := by
    rw [List.map_map]
    rfl
  have none : tabs 0 = "" := rfl
  rw [structText, if_neg (by simpa using some), width, none]
  simp only [List.map_map, Function.comp_def, String.append_empty]

theorem layout_struct (methods : List Method) :
    written (struct canonical methods) = " " ++ Layout.type 0 (struct spacing methods) := by
  have rows : (methods.map (field spacing (fieldWidth methods))).map
      (fun field => (⟨field.name, "func" ++ field.signature.laid⟩ : FieldRow)) =
        methods.map fieldRow := by
    rw [List.map_map]
    refine List.map_congr_left fun method _ => ?_
    rw [fieldRow, writtenOf_canonical_signature settles]
    rfl
  rw [struct.eq_1 spacing, layout_structType, rows]
  cases none : methods.isEmpty with
  | true =>
      rw [List.isEmpty_iff] at none
      subst none
      apply String.toList_injective
      simp [struct, structType, structText, canonical]
  | false =>
      have some : methods ≠ [] := by simpa using none
      have lines := writtenOf_shifted (written_fieldRow (fieldWidth methods)) methods
      have before : canonical.brace false = " " := rfl
      have after : canonical.braceEnd false = "\n" := rfl
      have text : written (struct canonical methods) =
          (" " ++ "struct") ++ (" " ++ "\x7b")
            ++ (writtenOf (methods.map fun method =>
                  (field canonical (fieldWidth methods) method).tree) ++ "\n") ++ "\x7d" := by
        simp only [struct, structType, none, before, after, written_node, writtenOf_cons,
          written_keyword, written_mark, writtenOf_nil, writtenOf_append, List.map_map,
          Function.comp_def, String.append_assoc, String.append_empty, List.cons_append]
      rw [text, lines, structText_rows some]
      apply String.toList_injective
      simp

theorem declaration_struct (first : Bool) (interface : Interface) :
    written (typeDeclaration (canonical.typeKeyword first) (Naming.structName interface.name)
        (struct canonical interface.methods)) =
      "\n\n" ++ declaration (typeDeclaration (spacing.typeKeyword first)
        (Naming.structName interface.name) (struct spacing interface.methods)) := by
  have role : (struct spacing interface.methods).role = .type := rfl
  have keyword : canonical.typeKeyword first = "\n\n" := rfl
  rw [declaration_type _ _ role, keyword]
  apply String.toList_injective
  simp [Written.typeDeclaration, layout_struct settles]

theorem declaration_method (interface : String) (first : Bool) (method : Method) :
    written (mockMethod canonical interface first method).tree =
      canonical.func first
        ++ declaration (mockMethod spacing interface first method).tree := by
  have inside := writtenOf_canonical_signature settles method
  have body : canonical.body = "\n\t" := rfl
  rw [declaration_mockMethod, written_mockMethod]
  simp only [mockMethod, inside, body]
  apply String.toList_injective
  simp

omit settles in
theorem declaration_import (spacing : Spacing) (entries : List (String × String)) :
    written (importTree canonical entries) = "\n\n" ++ declaration (importTree spacing entries) := by
  have texts : (entries.map (importLine spacing)).map ImportLine.laid =
      entries.map fun entry => (importLine canonical entry).laid := by
    rw [List.map_map]
    rfl
  have line (entry : String × String) :
      written (importLine canonical entry).tree ++ "\n" =
        "\n" ++ ("\t" ++ (importLine canonical entry).laid ++ "\n") := by
    have space : canonical.importLine entry.2 = "\n" ++ "\t" := rfl
    rw [written_importLine, ImportLine.laid]
    simp only [importLine, space, String.append_assoc]
  rw [importTree.eq_1 spacing, declaration_imports, texts]
  cases none : entries.isEmpty with
  | true =>
      rw [List.isEmpty_iff] at none
      rw [none]
      apply String.toList_injective
      simp [importTree, imports, importBlock, canonical]
  | false =>
      have some : entries ≠ [] := by simpa using none
      have lines := writtenOf_shifted line entries
      have text : written (importTree canonical entries) =
        "\n\n" ++ "import" ++ (" " ++ "(")
          ++ (writtenOf (entries.map fun entry => (importLine canonical entry).tree) ++ "\n")
          ++ ")" := by
        have keyword : canonical.importKeyword = "\n\n" := rfl
        have close : canonical.importEnd false = "\n" := rfl
        simp only [importTree, imports, none, keyword, close, written_node, writtenOf_cons,
          written_keyword, written_mark, writtenOf_nil, writtenOf_append, List.map_map,
          Function.comp_def, List.cons_append, String.append_assoc, String.append_empty]
      rw [text, lines, importBlock, if_neg (by simpa using some), List.map_map]
      apply String.toList_injective
      simp [Function.comp_def]

/-! The whole file. -/

omit settles in
theorem lead_structDeclaration (space text : String) (target : Tree) :
    (typeDeclaration space text target).lead = gap space := by
  simp [Written.typeDeclaration, lead_node]

omit settles in
theorem lead_mockMethod (method : MockMethod) : method.tree.lead = gap method.space := by
  simp [MockMethod.tree, lead_node]

theorem apart_method {before : Tree} (interface : String) (method : Method)
    (func : opener before = .func) :
    apart before (mockMethod spacing interface false method).tree = 1 := by
  have feed : feeds (mockMethod spacing interface false method).tree = 1 := by
    rw [feeds, lead_mockMethod, gap_text]
    exact settles.func
  have same : opener (mockMethod spacing interface false method).tree = .func := rfl
  rw [apart, func, same, feed]
  rfl

theorem chained_methods (before : Tree) (func : opener before = .func) (interface : String)
    (methods : List Method) {rest : List Tree} {text : String}
    (later : ∀ last, opener last = .func → chained last rest = text) :
    chained before (methods.map (fun method => (mockMethod spacing interface false method).tree)
        ++ rest) =
      writtenOf (methods.map fun method => (mockMethod canonical interface false method).tree)
        ++ text := by
  induction methods generalizing before with
  | nil => simpa using later before func
  | cons method methods ih =>
      have here := declaration_method settles interface false method
      have more := ih (mockMethod spacing interface false method).tree rfl
      have feed : canonical.func false = "\n" := rfl
      have one : String.ofList (List.replicate 1 '\n') = "\n" := rfl
      rw [List.map_cons, List.cons_append, chained, apart_method settles interface method func, more,
        one,
        List.map_cons, writtenOf_cons, here, feed]
      simp only [String.append_assoc]

theorem apart_struct {before : Tree} (first : Bool) (interface : Interface)
    (other : opener before = .type → first = false) :
    apart before (typeDeclaration (spacing.typeKeyword first)
      (Naming.structName interface.name) (struct spacing interface.methods)) = 2 := by
  have opens : opener (typeDeclaration (spacing.typeKeyword first)
      (Naming.structName interface.name) (struct spacing interface.methods)) = .type := rfl
  rw [apart, opens]
  by_cases same : opener before = .type
  · have feed := settles.type
    rw [if_pos same, feeds, lead_structDeclaration, gap_text, other same]
    omega
  · rw [if_neg same]

theorem chained_mock {before : Tree} (first : Bool) (interface : Interface)
    (other : opener before = .type → first = false) {rest : List Tree} {text : String}
    (later : ∀ last, opener last = .type ∨ opener last = .func → chained last rest = text) :
    chained before (mock spacing first interface ++ rest) =
      writtenOf (mock canonical first interface) ++ text := by
  have two : String.ofList (List.replicate 2 '\n') = "\n\n" := rfl
  have here := declaration_struct settles first interface
  rw [mock, mock, List.cons_append, chained, apart_struct settles first interface other, two,
    writtenOf_cons, here]
  cases interface.methods with
  | nil => simpa [spread] using later _ (.inl rfl)
  | cons method methods =>
      have start := declaration_method settles interface.name true method
      have feed : canonical.func true = "\n\n" := rfl
      have more := chained_methods settles (mockMethod spacing interface.name true method).tree rfl
        interface.name methods fun last func => later last (.inr func)
      have differs (space text : String) (target : Tree) :
          apart (typeDeclaration space text target)
            (mockMethod spacing interface.name true method).tree = 2 := rfl
      simp only [spread, List.map_cons, List.map_map, Function.comp_def, List.cons_append, chained,
        differs, two, more, writtenOf_cons, start, feed, String.append_assoc]

theorem chained_mocks {before : Tree} (opens : opener before = .type ∨ opener before = .func)
    (interfaces : List Interface) :
    chained before (interfaces.map (mock spacing false)).flatten =
      writtenOf (interfaces.map (mock canonical false)).flatten := by
  induction interfaces generalizing before with
  | nil => simp [chained]
  | cons interface interfaces ih =>
      rw [List.map_cons, List.flatten_cons, chained_mock settles false interface (fun _ => rfl)
        fun last opens => ih opens, List.map_cons, List.flatten_cons, writtenOf_append]

omit settles in
theorem bare_mock (spacing : Spacing) (first : Bool) (interface : Interface) :
    ∀ tree ∈ mock spacing first interface, Bare tree := by
  intro tree member
  rcases List.mem_cons.1 member with rfl | later
  · exact ⟨rfl, by rw [lead_structDeclaration, gap_comments]⟩
  · obtain ⟨method, -, rfl⟩ := List.mem_map.1 later
    exact ⟨rfl, by rw [lead_mockMethod, gap_comments]⟩

omit settles in
theorem bare_package (text : String) : Bare (Written.package text) :=
  ⟨rfl, by simp [Written.package, lead_node]⟩

omit settles in
theorem bare_restTrees (spacing : Spacing) (entries? : Option (List (String × String)))
    (interfaces : List Interface) : ∀ tree ∈ restTrees spacing entries? interfaces, Bare tree := by
  intro tree member
  rcases mem_restTrees spacing member with ⟨entries, -, rfl⟩ | ⟨first, interface, -, member⟩
  · exact ⟨rfl, by simp [importTree, imports, lead_node]⟩
  · exact bare_mock spacing first interface tree member

omit settles in
theorem bare_mocks (spacing : Spacing) (package : Package) :
    ∀ tree ∈ mocks spacing package, Bare tree := by
  rw [mocks, fileTrees_eq]
  exact List.forall_mem_cons.2 ⟨bare_package package.name, bare_restTrees spacing _ _⟩

theorem chained_body {before : Tree} (other : opener before ≠ .type) (interfaces : List Interface) :
    chained before (spread (mock spacing) interfaces).flatten =
      writtenOf (spread (mock canonical) interfaces).flatten := by
  cases interfaces with
  | nil => simp [spread, chained]
  | cons interface interfaces =>
      rw [spread, List.flatten_cons, chained_mock settles true interface (absurd · other)
        fun last opens => chained_mocks settles opens interfaces, spread, List.flatten_cons,
        writtenOf_append]

/-- Whatever ends the file, it is laid out as the text of the canonical trees. -/
theorem file_restTrees (name : String) (entries? : Option (List (String × String)))
    (interfaces : List Interface) (space : String) :
    file ⟨Written.package name :: restTrees spacing entries? interfaces, gap space⟩ =
      writtenOf (Written.package name :: restTrees canonical entries? interfaces) ++ "\n" := by
  have bare := List.forall_mem_cons.2
    ⟨bare_package name, bare_restTrees spacing entries? interfaces⟩
  have clause := declaration_package name
  have some : declaration (Written.package name) ≠ "" := by
    rw [clause]
    exact title_ne "package " (by decide) name
  have written : written (Written.package name) = "package " ++ name := by
    apply String.toList_injective
    simp [Written.package]
  have rest : chained (Written.package name) (restTrees spacing entries? interfaces) =
      writtenOf (restTrees canonical entries? interfaces) := by
    cases entries? with
    | none =>
        have other : opener (Written.package name) ≠ .type := by
          simp [show opener (Written.package name) = .package from rfl]
        exact chained_body settles other interfaces
    | some entries =>
        have list := declaration_import spacing entries
        have differs : apart (Written.package name) (importTree spacing entries) = 2 := rfl
        have two : String.ofList (List.replicate 2 '\n') = "\n\n" := rfl
        have other : opener (importTree spacing entries) ≠ .type := by
          simp [show opener (importTree spacing entries) = .import from rfl]
        have later := chained_body settles other interfaces
        simp only [restTrees, Option.map_some, Option.toList_some, List.cons_append,
          List.nil_append, chained, differs, two, later, writtenOf_cons, list]
  rw [file_bare rfl bare (gap_comments space) some, rest, clause, writtenOf_cons, written]

end Settled

end InterfaceMocks.Mock
