import InterfaceMocks.Plan
import InterfaceMocks.Proofs.Pruning.Kept
import InterfaceMocks.Proofs.Written.Occurrences
import Mathlib.Algebra.BigOperators.Ring.List

/-!
Where unrecognised types surface. Each has its text in two places of a mocks file, the field of its
method and the method that calls the field, before and after pruning; and a run warns about exactly
the methods with such a place.
-/

namespace InterfaceMocks

open InterfaceMocks.Syntax
open InterfaceMocks.Grammar (Source)
open InterfaceMocks.Written
open InterfaceMocks.Placeholder

def unrecognisedParams (params : List Param) : Nat :=
  (params.map Param.type).countP TypeExpr.isUnrecognised

theorem unrecognisedParams_flatMap {α : Type} (f : α → List Param) (list : List α) :
    unrecognisedParams (list.flatMap f) = (list.map fun a => unrecognisedParams (f a)).sum := by
  rw [unrecognisedParams, List.map_flatMap, List.countP_flatMap]
  rfl

def Method.unrecognisedCount (method : Method) : Nat :=
  unrecognisedParams (method.args ++ method.returns)

/-- The number of arguments and results, over all methods, whose type was not recognised. -/
def Package.unrecognisedCount (package : Package) : Nat :=
  unrecognisedParams ((package.interfaces.flatMap Interface.methods).flatMap fun method =>
    method.args ++ method.returns)

theorem Method.hasUnrecognised_eq (method : Method) :
    method.hasUnrecognised = decide (0 < method.unrecognisedCount) := by
  rw [Bool.eq_iff_iff, decide_eq_true_iff, hasUnrecognised, List.any_eq_true, unrecognisedCount,
    unrecognisedParams, List.countP_map, List.countP_pos_iff]
  rfl

theorem Package.unrecognisedCount_eq (package : Package) :
    package.unrecognisedCount = (package.interfaces.map fun interface =>
      (interface.methods.map Method.unrecognisedCount).sum).sum := by
  rw [unrecognisedCount, List.flatMap_assoc, unrecognisedParams_flatMap]
  simp only [unrecognisedParams_flatMap]
  rfl

namespace Mock

open Spacing (canonical)

theorem map_spread {α β γ : Type} {f : Bool → α → β} {g : β → γ} {h : α → γ} {list : List α}
    (each : ∀ first, ∀ a ∈ list, g (f first a) = h a) : (spread f list).map g = list.map h := by
  cases list with
  | nil => rfl
  | cons a rest =>
      rw [spread, List.map_cons, List.map_cons, List.map_map, each true a List.mem_cons_self]
      exact congrArg _ (List.map_congr_left fun b later =>
        each false b (List.mem_cons_of_mem _ later))

theorem unrecognisedSlots_spread (spacing : Spacing) (params : List Param) :
    unrecognisedSlots (spread (slot spacing) params) = unrecognisedParams params := by
  have types : (spread (slot spacing) params).map Slot.type = params.map Param.type := by
    refine map_spread fun first param _ => ?_
    by_cases unnamed : param.name = "" <;> simp [slot, unnamed]
  rw [unrecognisedSlots, types, unrecognisedParams]

theorem unrecognised_canonicalResult (slots : List Slot) :
    (canonicalResult slots).unrecognised = unrecognisedSlots slots := by
  unfold canonicalResult
  split
  · rfl
  · rename_i space expr
    cases unknown : expr.isUnrecognised <;> simp [Result.unrecognised, unrecognisedSlots, unknown]
  · rfl

theorem marksOf_methodSignature {method : Method} (clear : MethodClear method) :
    marksOf (methodSignature canonical method).trees = method.unrecognisedCount := by
  have clear := methodSignature_clear "" Spacing.canonical_fits (Spacing.canonical_even "") clear
  have args : unrecognisedSlots (methodSignature canonical method).args =
      unrecognisedParams method.args := by
    rw [methodSignature, signature, unrecognisedSlots_spread, unrecognisedParams, arguments_types,
      unrecognisedParams]
  have result : (methodSignature canonical method).result.unrecognised =
      unrecognisedParams method.returns := by
    rw [← unrecognisedSlots_spread canonical, ← unrecognised_canonicalResult]
    rfl
  rw [marksOf_signature clear, args, result, Method.unrecognisedCount, unrecognisedParams,
    unrecognisedParams, unrecognisedParams, List.map_append, List.countP_append]

/-- The two places of a method in the mock of its interface: the field, and the method that calls
it. -/
def sites (interface : Interface) (first : Bool) (method : Method) : List Tree :=
  [(field canonical (fieldWidth interface.methods) method).tree,
   (mockMethod canonical interface.name first method).tree]

section Interfaces

variable {interface : Interface} (clear : InterfaceClear interface)

include clear

theorem marks_field_eq {method : Method} (found : method ∈ interface.methods) :
    marks (field canonical (fieldWidth interface.methods) method).tree =
      method.unrecognisedCount := by
  have fields := struct_clear "" Spacing.canonical_fits (Spacing.canonical_even "") clear.methods
  rw [marks_field (fields _ (List.mem_map_of_mem found))]
  exact marksOf_methodSignature (clear.methods method found)

theorem marks_mockMethod_eq (first : Bool) {method : Method} (found : method ∈ interface.methods) :
    marks (mockMethod canonical interface.name first method).tree = method.unrecognisedCount := by
  rw [marks_mockMethod (mockMethod_clear "" Spacing.canonical_fits (Spacing.canonical_even "") clear
    first found)]
  exact marksOf_methodSignature (clear.methods method found)

theorem marks_sites (first : Bool) {method : Method} (found : method ∈ interface.methods) :
    ∀ tree ∈ sites interface first method, marks tree = method.unrecognisedCount := by
  simpa [sites] using ⟨marks_field_eq clear found, marks_mockMethod_eq clear first found⟩

/-- A mock has the types of each method once in the struct, and once in a method of its own. -/
theorem marksOf_mock (first : Bool) :
    marksOf (mock canonical first interface) =
      2 * (interface.methods.map Method.unrecognisedCount).sum := by
  have fields : marks (struct canonical interface.methods) =
      (interface.methods.map Method.unrecognisedCount).sum := by
    have each : interface.methods.map (fun method =>
        marks (field canonical (fieldWidth interface.methods) method).tree) =
          interface.methods.map Method.unrecognisedCount :=
      List.map_congr_left fun method found => marks_field_eq clear found
    simp [struct, structType, marksOf_eq_sum (List.map _ _), Function.comp_def, each]
  have methods : marksOf ((spread (mockMethod canonical interface.name) interface.methods).map
      MockMethod.tree) = (interface.methods.map Method.unrecognisedCount).sum := by
    have each := map_spread (f := mockMethod canonical interface.name)
      (g := fun written => marks written.tree) fun first _ found =>
        marks_mockMethod_eq clear first found
    rw [marksOf_eq_sum, List.map_map]
    exact congrArg List.sum each
  have owner := clear_of_isName clear.struct
  rw [mock, marksOf_cons, methods]
  simp [typeDeclaration, fields, owner, Nat.two_mul]

end Interfaces

theorem spread_of_mem {α β : Type} (f : Bool → α → β) {list : List α} {a : α} (found : a ∈ list) :
    ∃ first, f first a ∈ spread f list := by
  cases list with
  | nil => simp at found
  | cons b rest =>
      rcases List.mem_cons.1 found with rfl | later
      · exact ⟨true, List.mem_cons_self⟩
      · exact ⟨false, List.mem_cons_of_mem _ (List.mem_map_of_mem later)⟩

theorem tokens_inside {tree : Tree} {trees : List Tree} (member : tree ∈ trees) :
    tree.tokens <:+: Tree.tokensOf trees := by
  obtain ⟨before, after, rfl⟩ := List.append_of_mem member
  refine ⟨Tree.tokensOf before, Tree.tokensOf after, ?_⟩
  simp [Grammar.tokensOf_append, Tree.tokensOf]

/-- A mocks file has the places of all its methods. -/
theorem sites_inside (entries? : Option (List (String × String))) {interfaces : List Interface}
    {interface : Interface} (listed : interface ∈ interfaces) {method : Method}
    (found : method ∈ interface.methods) :
    ∃ first, ∀ tree ∈ sites interface first method,
      tree.tokens <:+: Tree.tokensOf (restTrees canonical entries? interfaces) := by
  obtain ⟨start, mocked⟩ := spread_of_mem (mock canonical) listed
  obtain ⟨first, called⟩ := spread_of_mem (mockMethod canonical interface.name) found
  have among {tree : Tree} (member : tree ∈ mock canonical start interface) :
      tree ∈ restTrees canonical entries? interfaces :=
    List.mem_append_right _ (List.mem_flatten.2 ⟨_, mocked, member⟩)
  have declared : (struct canonical interface.methods).tokens <:+:
      (typeDeclaration (canonical.typeKeyword start) (Naming.structName interface.name)
        (struct canonical interface.methods)).tokens := by
    simp only [typeDeclaration, Tree.tokens, Tree.tokensOf, List.append_nil]
    exact (List.suffix_append _ _).isInfix.trans (List.suffix_append _ _).isInfix
  have inside : (field canonical (fieldWidth interface.methods) method).tree.tokens <:+:
      (struct canonical interface.methods).tokens := by
    have field := tokens_inside (List.mem_map_of_mem (f := Field.tree)
      (List.mem_map_of_mem (f := field canonical (fieldWidth interface.methods)) found))
    refine field.trans ?_
    simp only [struct, structType, Tree.tokens, Tree.tokensOf, List.append_nil, List.cons_append,
      Grammar.tokensOf_append, ← List.append_assoc]
    exact ((List.suffix_append _ _).isInfix).trans ((List.prefix_append _ _).isInfix)
  refine ⟨first, ?_⟩
  simp only [sites, List.mem_cons, List.not_mem_nil, or_false, forall_eq_or_imp, forall_eq]
  exact ⟨inside.trans (declared.trans (tokens_inside (among List.mem_cons_self))),
    tokens_inside (among (List.mem_cons_of_mem _ (List.mem_map_of_mem called)))⟩

/-- Whether a text is the mocks file of a package, with the unrecognised types in their places. -/
structure Surfaces (package : Package) (entries? : Option (List (String × String)))
    (text : String) : Prop where
  count : Text.occurrences text TypeExpr.unrecognisedText = 2 * package.unrecognisedCount
  -- every name stands as the package has it
  intact : text = writtenOf (Written.package package.name
    :: restTrees canonical entries? package.interfaces) ++ "\n"
  -- and is told from the placeholder where the text is read
  fresh : Text.contains text (choose text) = false
  read : Source.parse? (protect (choose text) text) =
    some ⟨Written.package package.name :: restTrees canonical entries?
      (package.interfaces.map (Interface.fill (choose text))), gap "\n"⟩
  sites : ∀ interface ∈ package.interfaces, ∀ method ∈ interface.methods,
    ∃ first, ∀ tree ∈ sites interface first method,
      Text.contains text (Written.written tree) = true
        ∧ Text.contains (Written.written tree) TypeExpr.unrecognisedText = method.hasUnrecognised

section Files

variable {package : Package} (sound : Sound package)
  {entries? : Option (List (String × String))}
  (known : ∀ entries ∈ entries?, entries ⊆ package.imports.entries)

include sound known

theorem marksOf_restTrees :
    marksOf (Written.package package.name :: restTrees canonical entries? package.interfaces) =
      2 * package.unrecognisedCount := by
  have clause : marks (Written.package package.name) = 0 := by
    simp [Written.package, clear_of_isName sound.name]
  have header : marksOf (entries?.map (importTree canonical)).toList = 0 := by
    refine marksOf_unfilled ?_
    cases entries? with
    | none => rfl
    | some entries =>
        have labels : ∀ entry ∈ entries, EntryClear entry := by
          intro entry member
          obtain ⟨writable, path⟩ := sound.imports entry (known entries rfl member)
          exact writable.clear path
        simp [importTree_fill "" labels]
  have body : marksOf (spread (mock canonical) package.interfaces).flatten =
      2 * package.unrecognisedCount := by
    have each := map_spread (f := mock canonical) (g := marksOf) fun first interface listed =>
      marksOf_mock (sound.clear interface listed) first
    rw [marksOf_flatten, each, package.unrecognisedCount_eq, List.sum_map_mul_left]
  rw [marksOf_cons, clause, restTrees, marksOf_append, header, body]
  omega

theorem surfaces_restTrees :
    Surfaces package entries? (writtenOf (Written.package package.name
      :: restTrees canonical entries? package.interfaces) ++ "\n") := by
  have separate := separate_tokens sound.name
    (restTrees_protectable sound Spacing.canonical_suits known 0)
  refine ⟨?_, rfl, ?_, Pruning.parse_chosen sound known rfl, fun interface listed method found => ?_⟩
  · rw [writtenOf, occurrences_written separate clear_spaces.2.2]
    exact marksOf_restTrees sound known
  · obtain ⟨n, chosen, absent⟩ := choose_fresh (writtenOf (Written.package package.name
      :: restTrees canonical entries? package.interfaces) ++ "\n")
    rw [chosen, absent]
  · obtain ⟨first, places⟩ := sites_inside entries? listed found
    refine ⟨first, fun tree member => ?_⟩
    have inside : tree.tokens <:+: Tree.tokensOf (Written.package package.name
        :: restTrees canonical entries? package.interfaces) :=
      (places tree member).trans (List.suffix_append _ _).isInfix
    have counted := occurrences_written (fun token member => separate token (inside.subset member))
      clear_spaces.1
    rw [String.append_empty] at counted
    refine ⟨contains_written inside "\n", ?_⟩
    rw [Text.contains_eq_occurrences, Written.written, counted, method.hasUnrecognised_eq,
      ← marks_sites (sound.clear interface listed) first found tree member]
    rfl

end Files

end Mock

/-! Warnings. -/

def Log.warnings (entries : List Log.Entry) : List Log.Entry :=
  entries.filter fun entry => entry.level = .warn

theorem Log.warnings_append (first second : List Log.Entry) :
    warnings (first ++ second) = warnings first ++ warnings second := List.filter_append ..

/-- Pruning warns about nothing. -/
theorem Pruning.warnings_runRemarks (settings : Settings) (path : String) (bytes : ByteArray) :
    Log.warnings (runRemarks settings path bytes) = [] := by
  have dropped (source : Source) : Log.warnings (remarks source) = [] := by
    simp only [Log.warnings, remarks, List.filter_flatMap]
    refine List.flatMap_eq_nil_iff.2 fun tree _ => ?_
    split
    · rw [List.filter_map, List.map_eq_nil_iff]
      exact List.filter_eq_nil_iff.2 (by simp [Log.debug])
    · rfl
  have pruned (text : String) : Log.warnings (pruneRemarks text) = [] := by
    unfold pruneRemarks
    split
    · rfl
    · exact dropped _
  unfold runRemarks
  split
  · cases String.fromUTF8? bytes with
    | none => rfl
    | some text => exact pruned text
  · rfl
  · rfl

namespace Plan

theorem warnings_warnings (package : Package) :
    Log.warnings (warnings package) = warnings package := by
  refine List.filter_eq_self.2 fun entry member => ?_
  obtain ⟨_, -, rfl⟩ := List.mem_map.1 member
  rfl

theorem warnings_generatePackage (script : Except OsError String) (directory : String)
    (settings : Settings) (package : Package) (log : List Log.Entry) :
    Log.warnings (generatePackage script directory settings package log).log =
      Log.warnings log ++ warnings package := by
  have started : Log.warnings (log
      ++ [Log.info s!"{package.interfaces.length} interface declarations found, generating mocks..."]
      ++ warnings package ++ [generateRemark package]) = Log.warnings log ++ warnings package := by
    simp only [Log.warnings_append, warnings_warnings]
    simp [Log.warnings, Log.info, generateRemark, Log.debug]
  unfold generatePackage
  split
  · exact started
  · rename_i text _
    have pruning := Pruning.warnings_runRemarks settings (settings.outputPath directory) text.toUTF8
    have ended (log : List Log.Entry) : Log.warnings (log ++
        Log.debug ("Pruning imports with " ++ settings.pruner.label)
          :: Pruning.runRemarks settings (settings.outputPath directory) text.toUTF8) =
        Log.warnings log := by
      rw [Log.warnings_append, List.append_right_eq_self]
      exact pruning
    dsimp only
    split
    · exact (ended _).trans started
    · exact (ended _).trans started

/-- Besides what loading warns about, generating warns about the methods of the package that need a
type which was not recognised. -/
theorem warnings_generate {around : Surroundings} {directory : String} {package : Package}
    (loaded : Loading.load directory around.listing = .ok package) (settings : Settings) :
    Log.warnings (generate around directory settings).log =
      Log.warnings (Loading.remarks directory around.listing) ++ warnings package := by
  rw [generate, loaded]
  dsimp only
  split
  · rename_i none
    have nothing : warnings package = [] := by
      simp [warnings, Package.unrecognised, List.isEmpty_iff.1 none]
    rw [nothing]
    exact Log.warnings_append ..
  · exact warnings_generatePackage ..

end Plan

/-- Whether a run that loads the package warns, after what loading warns about, about each method
that needs a type which was not recognised. -/
def Warned (package : Package) : Prop :=
  ∀ around directory settings, Loading.load directory around.listing = .ok package →
    Log.warnings (Plan.generate around directory settings).log =
      Log.warnings (Loading.remarks directory around.listing)
        ++ package.interfaces.flatMap fun interface =>
          (interface.methods.filter Method.hasUnrecognised).map fun method =>
            Log.warn (interface.name ++ "." ++ method.name
              ++ " uses an unsupported type; the generated method will not compile")

theorem warned (package : Package) : Warned package := by
  intro around directory settings loaded
  rw [Plan.warnings_generate loaded, Plan.warnings, Package.unrecognised, List.map_flatMap]
  simp only [List.map_map]
  rfl

namespace Mock

open InterfaceMocks.Pruning

/-- For every plain package, mocks are generated and pruned, and both files have the text of an
unrecognised type twice for each argument and result with such a type, and all names as they are in
the package. The two places of a method have that text if and only if the method needs such a type,
which is when a run that loads the package warns about it. -/
theorem unrecognised_surface (package : Package) (plain : package.isPlain = true) :
    ∃ generated pruned entries?, generate? package = some generated
      ∧ prune generated = .ok pruned
      ∧ Surfaces package (some package.imports.entries) generated
      ∧ (∀ entries ∈ entries?, entries ⊆ package.imports.entries)
      ∧ Surfaces package entries? pruned
      ∧ Warned package := by
  have sound := sound_of_plain plain
  have quotes := tame_quotes (package_of_plain plain).2
  have generated := generate_eq sound
  rw [mocks, fileTrees_eq] at generated
  have fewer : ∀ entries ∈ keep (package.interfaces.flatMap Interface.mockQualifiers)
      (some package.imports.entries), entries ⊆ package.imports.entries :=
    keep_subset imports_known
  exact ⟨_, _, _, generated, prune_restTrees sound quotes imports_known,
    surfaces_restTrees sound imports_known, fewer, surfaces_restTrees sound fewer, warned package⟩

/-- A package with names that are spelled like placeholders. -/
def guisedPackage : Package where
  name := "_unrecognised_"
  imports := Imports.empty.extend [("encoding/json", "_unrecog00000_"), ("context", "")]
  interfaces :=
    [⟨"_unrecognised_",
      [⟨"Get", [⟨"_unrecog00001_", .unrecognised⟩, ⟨"", .named "_unrecognised_"⟩],
        [⟨"", .pointer (.array none .unrecognised)⟩]⟩,
       ⟨"_unrecognised_", [⟨"_", .qualified "_unrecog00000_" "_unrecognised_"⟩], []⟩]⟩,
     ⟨"Plain", [⟨"Put", [⟨"m", .array (some "0x10") .unrecognised⟩], []⟩]⟩]

theorem unrecognised_surface_guisedPackage :
    guisedPackage.isPlain = true ∧ guisedPackage.unrecognisedCount = 3
      ∧ ∃ generated pruned entries?, generate? guisedPackage = some generated
      ∧ prune generated = .ok pruned
      ∧ Surfaces guisedPackage (some guisedPackage.imports.entries) generated
      ∧ (∀ entries ∈ entries?, entries ⊆ guisedPackage.imports.entries)
      ∧ Surfaces guisedPackage entries? pruned
      ∧ Warned guisedPackage :=
  ⟨by decide, by decide, unrecognised_surface guisedPackage (by decide)⟩

end Mock

end InterfaceMocks
