import InterfaceMocks.Extraction.Parsing
import InterfaceMocks.Proofs.Loading.Merging
import InterfaceMocks.Proofs.Mock.Faithful
import InterfaceMocks.Proofs.Written.Contents
import InterfaceMocks.Proofs.Written.Sources

/-!
Extraction is the inverse of writing a package down. `sourceText` writes a package as a source: its
clause, its imports and its interfaces, where parameters that share a type may be written together.
However they are grouped, the source is read back as the package.
-/

namespace InterfaceMocks

open InterfaceMocks.Syntax InterfaceMocks.Grammar InterfaceMocks.Text
open InterfaceMocks.Written
open InterfaceMocks.Mock (spread mem_spread)

/-! What a package is written as. -/

/-- Parameters that are written together: names that share a type, or a type alone. -/
structure Group where
  names : List String
  type : TypeExpr
  named : ∀ name ∈ names, name ≠ ""

namespace Group

def params (group : Group) : List Param :=
  if group.names = [] then [⟨"", group.type⟩] else group.names.map fun name => ⟨name, group.type⟩

def text (group : Group) : String :=
  if group.names = [] then group.type.render
  else ", ".intercalate group.names ++ " " ++ group.type.render

def listText (groups : List Group) : String := "(" ++ ", ".intercalate (groups.map text) ++ ")"

/-- Results are left out if there are none, and stand without parentheses if there is one without a
name. -/
def resultText (groups : List Group) : String :=
  match groups with
  | [] => ""
  | [group] => " " ++ (if group.names = [] then group.type.render else listText [group])
  | groups => " " ++ listText groups

end Group

structure GroupedMethod where
  name : String
  args : List Group
  results : List Group

def GroupedMethod.method (grouped : GroupedMethod) : Method :=
  ⟨grouped.name, grouped.args.flatMap Group.params, grouped.results.flatMap Group.params⟩

def GroupedMethod.line (grouped : GroupedMethod) : String :=
  "\n\t" ++ grouped.name ++ Group.listText grouped.args ++ Group.resultText grouped.results

structure GroupedInterface where
  name : String
  methods : List GroupedMethod

def GroupedInterface.interface (grouped : GroupedInterface) : Interface :=
  ⟨grouped.name, grouped.methods.map GroupedMethod.method⟩

def GroupedInterface.text (grouped : GroupedInterface) : String :=
  "\n\ntype " ++ grouped.name ++ " interface \x7b"
    ++ String.join (grouped.methods.map GroupedMethod.line) ++ "\n\x7d"

def importText (entry : String × String) : String :=
  "\n\t" ++ (if entry.2 = "" then "" else entry.2 ++ " ") ++ "\x22" ++ entry.1 ++ "\x22"

def sourceText (name : String) (imports : List (String × String))
    (interfaces : List GroupedInterface) : String :=
  "package " ++ name ++ "\n\nimport (" ++ String.join (imports.map importText) ++ "\n)"
    ++ String.join (interfaces.map GroupedInterface.text) ++ "\n"

/-! What a package must be like for that. -/

def isFreeName (text : String) : Bool :=
  Identifier.isIdentifier text && !keywords.contains text

def isQuotedPath (path : String) : Bool :=
  path.toList.all fun c => !(['\x22', '\x60', '\\', '\n', '\x00'].contains c)

def TypeExpr.isOrdinary : TypeExpr → Bool
  | named text => isFreeName text
  | qualified package text => isFreeName package && isFreeName text
  | pointer inner => inner.isOrdinary
  | array length element => length.all Number.isInt && element.isOrdinary
  | unrecognised => false

def Param.isOrdinary (param : Param) : Bool :=
  (param.name == "" || isFreeName param.name) && param.type.isOrdinary

def Method.isOrdinary (method : Method) : Bool :=
  isFreeName method.name && method.args.all Param.isOrdinary && method.returns.all Param.isOrdinary
    && isUniform method.args && isUniform method.returns

def Interface.isOrdinary (interface : Interface) : Bool :=
  isFreeName interface.name && interface.methods.all Method.isOrdinary

/-- Whether all that a package names can be written as it is. -/
def Package.isOrdinary (package : Package) : Bool :=
  isFreeName package.name
    && (package.imports.entries.all fun entry =>
      (entry.2 == "" || entry.2 == "." || isFreeName entry.2) && isQuotedPath entry.1)
    && package.interfaces.all Interface.isOrdinary

namespace Extraction

/-! The trees of such a source, and their text. -/

def slot (first : Bool) (group : Group) : Slot :=
  ⟨if first then "" else " ", group.names, group.type⟩

def slots (groups : List Group) : List Slot := spread slot groups

def result : List Group → Result
  | [] => .none
  | [group] => if group.names = [] then .lone " " group.type else .list " " (slots [group])
  | groups => .list " " (slots groups)

def element (grouped : GroupedMethod) : Element :=
  ⟨"\n\t", grouped.name, ⟨slots grouped.args, result grouped.results⟩⟩

def declaration (grouped : GroupedInterface) : Tree :=
  typeDeclaration "\n\n" grouped.name (interfaceType (grouped.methods.map element))

def importLine (entry : String × String) : ImportLine := ⟨"\n\t", entry.2, entry.1⟩

def sourceTrees (imports : List (String × String)) (interfaces : List GroupedInterface) :
    List Tree :=
  Written.imports "\n\n" (imports.map importLine) "\n" :: interfaces.map declaration

theorem slots_text (groups : List Group) :
    ",".intercalate ((slots groups).map fun slot => slot.space ++ slot.text) =
      ", ".intercalate (groups.map Group.text) := by
  have each (first : Bool) (group : Group) :
      (slot first group).space ++ (slot first group).text =
        (if first then "" else " ") ++ group.text := by
    simp [slot, Slot.text, Group.text]
  have separated (text : String) : "," ++ (" " ++ text) = ", " ++ text :=
    (@String.append_assoc "," " " text).symm
  cases groups with
  | nil => rfl
  | cons first rest =>
      simp [slots, spread, intercalate_cons, Function.comp_def, each, separated]

theorem parameters_text (groups : List Group) :
    "(" ++ ",".intercalate ((slots groups).map fun slot => slot.space ++ slot.text) ++ ")" =
      Group.listText groups := by
  rw [slots_text, Group.listText]

theorem result_cases (groups : List Group) :
    (groups = [] ∧ result groups = .none)
      ∨ (∃ group, groups = [group] ∧ group.names = [] ∧ result groups = .lone " " group.type)
      ∨ (result groups = .list " " (slots groups)
        ∧ Group.resultText groups = " " ++ Group.listText groups) := by
  match groups with
  | [] => exact .inl ⟨rfl, rfl⟩
  | [group] =>
      by_cases unnamed : group.names = []
      · exact .inr (.inl ⟨group, rfl, unnamed, by simp [result, unnamed]⟩)
      · exact .inr (.inr (by simp [result, Group.resultText, unnamed]))
  | _ :: _ :: _ => exact .inr (.inr ⟨rfl, rfl⟩)

theorem result_text (groups : List Group) : (result groups).text = Group.resultText groups := by
  rcases result_cases groups with ⟨rfl, -⟩ | ⟨group, rfl, unnamed, same⟩ | ⟨same, text⟩
  · rfl
  · simp [same, Result.text, Group.resultText, unnamed]
  · rw [same, text, Result.text, ← parameters_text]
    simp only [String.append_assoc]

theorem written_element (grouped : GroupedMethod) : written (element grouped).tree = grouped.line := by
  have signature := writtenOf_signature (element grouped).signature
  rw [show (element grouped).signature.args = slots grouped.args from rfl, parameters_text,
    show (element grouped).signature.result = result grouped.results from rfl, result_text]
    at signature
  simp only [Element.tree, written_node, writtenOf_cons, written_name, signature,
    GroupedMethod.line, String.append_assoc]
  rfl

theorem writtenOf_map {α : Type} {tree : α → Tree} {text : α → String}
    (each : ∀ a, written (tree a) = text a) (list : List α) :
    writtenOf (list.map tree) = String.join (list.map text) := by
  rw [writtenOf_eq_join, List.map_map]
  exact congrArg String.join (List.map_congr_left fun a _ => each a)

theorem written_declaration (grouped : GroupedInterface) :
    written (declaration grouped) = grouped.text := by
  have lines : writtenOf (grouped.methods.map (Element.tree ∘ element)) =
      String.join (grouped.methods.map GroupedMethod.line) :=
    writtenOf_map written_element grouped.methods
  apply String.toList_injective
  simp [declaration, typeDeclaration, interfaceType, lines, GroupedInterface.text]

theorem written_import (entry : String × String) :
    written (importLine entry).tree = importText entry := by
  rw [written_importLine]
  apply String.toList_injective
  by_cases none : entry.2 = "" <;> simp [importLine, importText, none, quoted]

/-- The source of a package is the text of its trees. -/
theorem writtenOf_source (name : String) (imports : List (String × String))
    (interfaces : List GroupedInterface) :
    writtenOf (package name :: sourceTrees imports interfaces) ++ "\n" =
      sourceText name imports interfaces := by
  have lines : writtenOf (imports.map (ImportLine.tree ∘ importLine)) =
      String.join (imports.map importText) := writtenOf_map written_import imports
  have declarations : writtenOf (interfaces.map declaration) =
      String.join (interfaces.map GroupedInterface.text) :=
    writtenOf_map written_declaration interfaces
  apply String.toList_injective
  simp [sourceTrees, package, Written.imports, lines, declarations, sourceText]

/-! The trees are read back, and extraction finds in them what they were written from. -/

theorem not_typeWord_of_free {text : String} (free : isFreeName text = true) :
    text ∉ typeWords := by
  have all : ∀ word ∈ typeWords, word ∈ keywords := by decide
  simp only [isFreeName, Bool.and_eq_true, Bool.not_eq_true', List.contains_eq_mem,
    decide_eq_false_iff_not] at free
  exact fun member => free.2 (all text member)

theorem isName_of_free {text : String} (free : isFreeName text = true) : IsName text := by
  simp only [isFreeName, Bool.and_eq_true] at free
  exact free.1

/-- A type that is spelled, read and recognised as it is written. -/
structure TypeStands (expr : TypeExpr) : Prop where
  reads : TypeReadable expr
  spells : TypeSpelled expr
  known : TypeKnown expr

theorem typeStands_of_ordinary {expr : TypeExpr} (ordinary : expr.isOrdinary = true) :
    TypeStands expr := by
  induction expr with
  | named text =>
      exact ⟨not_typeWord_of_free ordinary, isName_of_free ordinary, trivial⟩
  | qualified package text =>
      simp only [TypeExpr.isOrdinary, Bool.and_eq_true] at ordinary
      exact ⟨not_typeWord_of_free ordinary.1,
        ⟨isName_of_free ordinary.1, isName_of_free ordinary.2⟩, trivial⟩
  | pointer inner ih =>
      obtain ⟨reads, spells, known⟩ := ih ordinary
      exact ⟨reads, spells, known⟩
  | array length element ih =>
      simp only [TypeExpr.isOrdinary, Bool.and_eq_true] at ordinary
      obtain ⟨reads, spells, known⟩ := ih ordinary.2
      cases length with
      | none => exact ⟨reads, spells, known⟩
      | some text =>
          obtain ⟨stands, int⟩ := literalStands_int ordinary.1
          exact ⟨⟨by simp [int], by simp [int], reads⟩, ⟨stands, spells⟩, ⟨int, known⟩⟩
  | unrecognised => simp [TypeExpr.isOrdinary] at ordinary

section Groups

variable {groups : List Group}
  (ordinary : ∀ param ∈ groups.flatMap Group.params, param.isOrdinary = true)

include ordinary

theorem group_ordinary {group : Group} (member : group ∈ groups) :
    (∀ name ∈ group.names, isFreeName name = true) ∧ group.type.isOrdinary = true := by
  have each (param : Param) (among : param ∈ group.params) : param.isOrdinary = true :=
    ordinary param (List.mem_flatMap.2 ⟨group, member, among⟩)
  simp only [Param.isOrdinary, Bool.and_eq_true, Bool.or_eq_true, beq_iff_eq] at each
  cases names : group.names with
  | nil =>
      have alone := each ⟨"", group.type⟩ (by simp [Group.params, names])
      exact ⟨by simp, alone.2⟩
  | cons first rest =>
      have among (name : String) (found : name ∈ first :: rest) :=
        each ⟨name, group.type⟩ (by simpa [Group.params, names] using found)
      refine ⟨fun name found => ?_, (among first List.mem_cons_self).2⟩
      exact (among name found).1.resolve_left (group.named name (names ▸ found))

theorem slot_stands {slot : Slot} (member : slot ∈ slots groups) :
    slot.Readable ∧ slot.Spelled ∧ TypeKnown slot.type := by
  obtain ⟨first, group, found, rfl⟩ := mem_spread member
  obtain ⟨names, type⟩ := group_ordinary ordinary found
  obtain ⟨reads, spells, known⟩ := typeStands_of_ordinary type
  refine ⟨⟨fun text head => ?_, fun text among => ?_, reads⟩, ⟨?_, fun text among => ?_, spells⟩,
    known⟩
  · exact not_typeWord_of_free (names text (List.mem_of_mem_head? head))
  · rintro rfl
    exact not_typeWord_of_free (names _ among) (by simp [typeWords])
  · have blank : ∀ first : Bool, Blank (if first then "" else " ") := by decide
    exact blank first
  · exact isName_of_free (names text among)

/-- Parameters that all have names, or all have none, stand in groups that do. -/
theorem slots_readable (uniform : isUniform (groups.flatMap Group.params) = true) :
    SlotsReadable (slots groups) := by
  simp only [isUniform, Bool.or_eq_true, List.all_eq_true, bne_iff_ne, beq_iff_eq] at uniform
  rcases uniform with named | unnamed
  · refine slotsReadable_named fun slot member => ⟨(slot_stands ordinary member).1, ?_⟩
    obtain ⟨first, group, found, rfl⟩ := mem_spread member
    intro none
    exact named ⟨"", group.type⟩ (List.mem_flatMap.2 ⟨group, found, by
      simp [Group.params, show group.names = [] from none]⟩) rfl
  · refine (slotsReadable_unnamed fun slot member => ⟨(slot_stands ordinary member).1, ?_⟩).1
    obtain ⟨first, group, found, rfl⟩ := mem_spread member
    refine List.eq_nil_iff_forall_not_mem.2 fun name among => ?_
    have among : name ∈ group.names := among
    have some : group.names ≠ [] := List.ne_nil_of_mem among
    exact group.named name among (unnamed ⟨name, group.type⟩ (List.mem_flatMap.2
      ⟨group, found, by simpa [Group.params, some] using among⟩))

end Groups

theorem slots_params (groups : List Group) :
    (slots groups).flatMap Slot.params = groups.flatMap Group.params := by
  have each (first : Bool) (group : Group) : (slot first group).params = group.params := by
    simp [slot, Slot.params, declared, Group.params]
  cases groups with
  | nil => rfl
  | cons first rest => simp [slots, spread, List.flatMap_map, each]

theorem result_params (groups : List Group) :
    (result groups).params = groups.flatMap Group.params := by
  rcases result_cases groups with ⟨rfl, -⟩ | ⟨group, rfl, unnamed, same⟩ | ⟨same, -⟩
  · rfl
  · simp [same, Result.params, Group.params, unnamed]
  · rw [same, Result.params, slots_params]

theorem element_method (grouped : GroupedMethod) : (element grouped).method = grouped.method := by
  simp only [Element.method, element, slots_params, result_params, GroupedMethod.method]

structure ResultStands (result : Result) : Prop where
  reads : result.Readable
  spells : result.Spelled
  known : result.Known

theorem result_stands {groups : List Group}
    (ordinary : ∀ param ∈ groups.flatMap Group.params, param.isOrdinary = true)
    (uniform : isUniform (groups.flatMap Group.params) = true) : ResultStands (result groups) := by
  rcases result_cases groups with ⟨rfl, -⟩ | ⟨group, rfl, unnamed, same⟩ | ⟨same, -⟩
  · exact ⟨trivial, trivial, trivial⟩
  · obtain ⟨reads, spells, known⟩ :=
      typeStands_of_ordinary (group_ordinary ordinary List.mem_cons_self).2
    rw [same]
    exact ⟨⟨breaks_blank, reads⟩, ⟨blank_space, spells⟩, known⟩
  · rw [same]
    exact ⟨⟨breaks_blank, slots_readable ordinary uniform⟩,
      ⟨blank_space, fun slot member => (slot_stands ordinary member).2.1⟩,
      fun slot member => (slot_stands ordinary member).2.2⟩

theorem line_apart : Apart "\n\t" := ⟨by decide, by decide⟩

theorem line_breaks : breaks "\n\t" = true := by decide

structure ElementStands (element : Element) : Prop where
  reads : element.Readable
  spells : element.Spelled
  known : element.signature.Known

theorem element_stands {grouped : GroupedMethod} (ordinary : grouped.method.isOrdinary = true) :
    ElementStands (element grouped) := by
  simp only [Method.isOrdinary, Bool.and_eq_true, List.all_eq_true, GroupedMethod.method]
    at ordinary
  obtain ⟨⟨⟨⟨name, args⟩, results⟩, uniform⟩, uniform'⟩ := ordinary
  obtain ⟨reads, spells, known⟩ := result_stands results uniform'
  exact
    { reads := ⟨line_breaks, not_typeWord_of_free name, slots_readable args uniform, reads⟩
      spells := ⟨line_apart, isName_of_free name,
        fun slot member => (slot_stands args member).2.1, spells⟩
      known := ⟨fun slot member => (slot_stands args member).2.2, known⟩ }

section Declarations

variable {grouped : GroupedInterface} (ordinary : grouped.interface.isOrdinary = true)

include ordinary

theorem elements_stand {written : Element} (member : written ∈ grouped.methods.map element) :
    ElementStands written := by
  simp only [Interface.isOrdinary, GroupedInterface.interface, Bool.and_eq_true,
    List.all_eq_true, List.mem_map] at ordinary
  obtain ⟨method, found, rfl⟩ := List.mem_map.1 member
  exact element_stands (ordinary.2 _ ⟨method, found, rfl⟩)

theorem declaration_topLine : TopLine (declaration grouped) := by
  have name : IsName grouped.name := by
    simp only [Interface.isOrdinary, GroupedInterface.interface, Bool.and_eq_true] at ordinary
    exact isName_of_free ordinary.1
  refine typeDeclaration_topLine ⟨by decide, by decide⟩ (by decide) name ?_ ?_
  · intro tail
    exact ⟨rfl, ⟨_, _, rfl⟩, fun ends held => reading_interfaceType fun _ member =>
      (elements_stand ordinary member).reads⟩
  · intro rest next later
    exact interfaceType_lexes (fun _ member =>
      (elements_stand ordinary member).spells) later

theorem interfacesOf_declaration : interfacesOf (declaration grouped) = [grouped.interface] := by
  have methods : (grouped.methods.map element).map Element.method =
      grouped.methods.map GroupedMethod.method := by
    rw [List.map_map]
    exact List.map_congr_left fun method _ => element_method method
  rw [declaration, interfacesOf_written fun _ member =>
    (elements_stand ordinary member).known, methods, GroupedInterface.interface]

end Declarations

section Sources

variable {imports : List (String × String)} {interfaces : List GroupedInterface}
  (entries : ∀ entry ∈ imports,
    (entry.2 = "" ∨ entry.2 = "." ∨ isFreeName entry.2 = true) ∧ isQuotedPath entry.1 = true)
  (ordinary : ∀ grouped ∈ interfaces, grouped.interface.isOrdinary = true)

theorem isQuotedPath_iff {path : String} :
    isQuotedPath path = true ↔ ∀ c ∈ path.toList,
      c ≠ '\x22' ∧ c ≠ '\x60' ∧ c ≠ '\\' ∧ c ≠ '\n' ∧ c ≠ '\x00' := by
  simp only [isQuotedPath, List.all_eq_true, Bool.not_eq_true', List.contains_eq_mem,
    decide_eq_false_iff_not, List.mem_cons, List.not_mem_nil, or_false, not_or]

include entries

theorem imports_stand : TopLine (Written.imports "\n\n" (imports.map importLine) "\n") := by
  refine imports_topLine ⟨by decide, by decide⟩ (by decide) (by decide) ⟨?_, fun _ => by decide⟩ ?_
  · intro line member
    obtain ⟨entry, -, rfl⟩ := List.mem_map.1 member
    exact line_breaks
  · intro line member
    obtain ⟨entry, found, rfl⟩ := List.mem_map.1 member
    obtain ⟨label, path⟩ := entries entry found
    refine ⟨line_apart, label.imp_right (Or.imp_right isName_of_free), quotable_plain ?_⟩
    intro c among
    have plain := isQuotedPath_iff.1 path c among
    exact ⟨plain.1, plain.2.2.2.1, plain.2.2.1⟩

theorem importsOf_source :
    importsOf (Written.imports "\n\n" (imports.map importLine) "\n") = imports := by
  have plain : ∀ line ∈ imports.map importLine, ∀ c ∈ line.path.toList, isQuote c = false := by
    intro line member c among
    obtain ⟨entry, found, rfl⟩ := List.mem_map.1 member
    have plain := isQuotedPath_iff.1 (entries entry found).2 c among
    simp [isQuote, plain.1, plain.2.1]
  rw [importsOf_written _ _ plain, List.map_map]
  exact List.map_id' imports

include ordinary

theorem parse_sourceText {name : String} (isName : IsName name) :
    Source.parse? (sourceText name imports interfaces) =
      some ⟨package name :: sourceTrees imports interfaces, gap "\n"⟩ := by
  rw [← writtenOf_source]
  refine parse_topLines isName (fun tree member => ?_) (by decide)
  rcases List.mem_cons.1 member with rfl | member
  · exact imports_stand entries
  · obtain ⟨grouped, found, rfl⟩ := List.mem_map.1 member
    exact declaration_topLine (ordinary grouped found)

theorem contents_source (name : String) (some : interfaces ≠ []) (trailing : List Gap) :
    contents ⟨package name :: sourceTrees imports interfaces, trailing⟩ =
      ⟨name, Imports.empty.extend imports, interfaces.map GroupedInterface.interface⟩ := by
  have declarations : Source.declarations
      ⟨package name :: sourceTrees imports interfaces, trailing⟩ =
        package name :: sourceTrees imports interfaces := by
    refine List.filter_eq_self.2 fun tree member => ?_
    simp only [sourceTrees, List.mem_cons, List.mem_map] at member
    rcases member with rfl | rfl | ⟨grouped, -, rfl⟩ <;> rfl
  have clauses : (package name :: sourceTrees imports interfaces).filterMap packageName? =
      [name] := by
    have none : ∀ tree ∈ sourceTrees imports interfaces, packageName? tree = none := by
      simp [sourceTrees, packageName?, Written.imports, declaration, typeDeclaration]
    rw [List.filterMap_cons_some (packageName_written name), List.filterMap_eq_nil_iff.2 none]
  have imported : (package name :: sourceTrees imports interfaces).flatMap importsOf = imports := by
    have none : (interfaces.map declaration).flatMap importsOf = [] := by
      simp [List.flatMap_map, importsOf, declaration, typeDeclaration]
    rw [List.flatMap_cons, sourceTrees, List.flatMap_cons, importsOf_source entries, none,
      List.append_nil]
    rfl
  have declared : (package name :: sourceTrees imports interfaces).flatMap interfacesOf =
      interfaces.map GroupedInterface.interface := by
    have found : (interfaces.map declaration).flatMap interfacesOf =
        interfaces.map GroupedInterface.interface := by
      rw [List.flatMap_map, List.map_eq_flatMap]
      exact List.flatMap_congr fun grouped member =>
        interfacesOf_declaration (ordinary grouped member)
    rw [List.flatMap_cons, sourceTrees, List.flatMap_cons, found]
    rfl
  have present : (interfaces.map GroupedInterface.interface).isEmpty = false := by simpa using some
  rw [contents]
  simp only [declarations, clauses, imported, declared, present]
  rfl

end Sources

/-- However the parameters of its methods are grouped, the source of an ordinary package with an
interface is read as the package. -/
theorem parseFile_sourceText (file : String) (package : Package)
    (ordinary : package.isOrdinary = true) (some : package.interfaces ≠ [])
    (groupings : List GroupedInterface)
    (grouped : groupings.map GroupedInterface.interface = package.interfaces) :
    parseFile file (sourceText package.name package.imports.entries groupings) =
      .ok ⟨package.name, package.imports, package.interfaces⟩ := by
  simp only [Package.isOrdinary, Bool.and_eq_true, List.all_eq_true, Bool.or_eq_true, beq_iff_eq,
    or_assoc] at ordinary
  obtain ⟨⟨name, entries⟩, interfaces⟩ := ordinary
  have each : ∀ grouping ∈ groupings, grouping.interface.isOrdinary = true := by
    intro grouping member
    exact interfaces _ (grouped ▸ List.mem_map_of_mem member)
  have present : groupings ≠ [] := by
    rintro rfl
    exact some grouped.symm
  have isName : IsName package.name := isName_of_free name
  have named : package.name ≠ "" := isName_ne isName
  rw [parseFile, parse_sourceText entries each isName]
  simp only [contents_source entries each package.name present, Imports.extend_entries, grouped,
    named, if_false]

/-- A package whose methods have parameters of one type in a row. -/
def ordinaryPackage : Package where
  name := "storage"
  imports := Imports.empty.extend [("encoding/json", "j"), ("context", "")]
  interfaces :=
    [⟨"Store",
      [⟨"Copy", [⟨"from", .named "Key"⟩, ⟨"to", .named "Key"⟩, ⟨"other", .named "Key"⟩],
        [⟨"", .named "error"⟩]⟩,
       ⟨"Load", [⟨"", .qualified "context" "Context"⟩, ⟨"", .array (some "0x10") (.named "byte")⟩],
        [⟨"item", .pointer (.named "Item")⟩, ⟨"err", .named "error"⟩]⟩]⟩,
     ⟨"Маркер", []⟩]

/-- Two of the parameters written together, and the third apart. -/
def ordinaryGroupings : List GroupedInterface :=
  [⟨"Store",
    [⟨"Copy", [⟨["from", "to"], .named "Key", by decide⟩, ⟨["other"], .named "Key", by decide⟩],
      [⟨[], .named "error", by decide⟩]⟩,
     ⟨"Load", [⟨[], .qualified "context" "Context", by decide⟩,
        ⟨[], .array (some "0x10") (.named "byte"), by decide⟩],
      [⟨["item"], .pointer (.named "Item"), by decide⟩, ⟨["err"], .named "error", by decide⟩]⟩]⟩,
   ⟨"Маркер", []⟩]

theorem parseFile_ordinaryPackage :
    ordinaryPackage.isOrdinary = true ∧ ordinaryPackage.interfaces ≠ []
      ∧ ordinaryGroupings.map GroupedInterface.interface = ordinaryPackage.interfaces
      ∧ parseFile "input.go"
          (sourceText ordinaryPackage.name ordinaryPackage.imports.entries ordinaryGroupings) =
        .ok ⟨ordinaryPackage.name, ordinaryPackage.imports, ordinaryPackage.interfaces⟩ :=
  ⟨by decide, by decide, by decide,
    parseFile_sourceText "input.go" ordinaryPackage (by decide) (by decide) ordinaryGroupings
      (by decide)⟩

end Extraction

end InterfaceMocks
