import InterfaceMocks.Proofs.Extraction.PackageClause
import InterfaceMocks.Proofs.Mock.Soundness

/-!
The names that extraction finds in a source are identifiers. Wherever the grammar gives a child the
role of a name it reads a single word there, which can be checked of each of its rules; and a word is
cut as an identifier. So mocks are generated for every source that can be read and is tame. One that is
not tame need not have any: a result may be called like a word that starts a type, where it is not the
first of its list, but it cannot be written so on its own.
-/

namespace InterfaceMocks.Grammar

open InterfaceMocks.Syntax

variable {Rule : Type}

def Shape.isWord : Shape → Bool
  | name _ | keyword _ | oneOf _ => true
  | mark _ | sameLine _ | opening _ | literal _ => false

theorem Shape.word_of_admits {shape : Shape} {token : Token} (word : shape.isWord = true)
    (admits : shape.Admits token) : token.lexeme = .word := by
  cases shape with
  | name reserved | keyword text | oneOf words => exact admits.1
  | mark text | sameLine text | opening text | literal lexeme => simp [Shape.isWord] at word

def Shape.isMark (text : String) : Shape → Bool
  | mark own => own = text
  | _ => false

theorem Shape.text_of_admits {shape : Shape} {text : String} {token : Token}
    (alone : shape.isMark text = true) (admits : shape.Admits token) : token.text = text := by
  cases shape with
  | mark own =>
      obtain rfl : own = text := by simpa [Shape.isMark] using alone
      exact admits.2
  | name reserved | keyword own | oneOf words | sameLine own | opening own | literal lexeme =>
      simp [Shape.isMark] at alone

def IsLeafOf (kinds : List Kind) (tree : Tree) : Prop :=
  ∃ kind role token, tree = .leaf kind role token ∧ kind ∈ kinds

namespace Gram

/-- Whether an expression makes leaves of the given kinds and nothing else. -/
def makes (kinds : List Kind) : Gram Rule → Bool
  | leaf kind _ => kinds.contains kind
  | alt first second => first.makes kinds && second.makes kinds
  | _ => false

/-- Whether all trees of an expression that have the role of a name are leaves of the given kinds. -/
def labels (kinds : List Kind) : Gram Rule → Bool
  | as role body => (role ≠ .name && role ≠ .package) || body.makes kinds
  | seq first second | alt first second => first.labels kinds && second.labels kinds
  | many body => body.labels kinds
  | empty | leaf _ _ | terminator | node _ _ | ahead _ | absent _ | joined => true
  | rule _ | hold _ _ | held | grow _ => false

end Gram

variable {rules : Rule → Gram Rule} {held : List Tree} {g : Gram Rule} {trees : List Tree}
  {kinds : List Kind}

theorem Derives.leaves (derives : Derives rules held g trees) (makes : g.makes kinds = true) :
    ∀ tree ∈ trees, IsLeafOf kinds tree := by
  induction derives with
  | @leaf _ kind _ token _ _ =>
      have listed : kind ∈ kinds := by simpa [Gram.makes] using makes
      intro tree member
      obtain rfl := List.mem_singleton.1 member
      exact ⟨kind, .plain, token, rfl, listed⟩
  | left _ ih =>
      simp only [Gram.makes, Bool.and_eq_true] at makes
      exact ih makes.1
  | right _ ih =>
      simp only [Gram.makes, Bool.and_eq_true] at makes
      exact ih makes.2
  | _ => simp [Gram.makes] at makes

theorem Derives.labelled (derives : Derives rules held g trees) (labels : g.labels kinds = true) :
    ∀ tree ∈ trees, tree.role = .name ∨ tree.role = .package → IsLeafOf kinds tree := by
  induction derives with
  | empty | ended | none | ahead | absent | joined => simp
  | leaf | terminator | node => simp [Tree.role]
  | seq _ _ ih ih' =>
      simp only [Gram.labels, Bool.and_eq_true] at labels
      intro tree member
      exact (List.mem_append.1 member).elim (ih labels.1 tree) (ih' labels.2 tree)
  | left _ ih =>
      simp only [Gram.labels, Bool.and_eq_true] at labels
      exact ih labels.1
  | right _ ih =>
      simp only [Gram.labels, Bool.and_eq_true] at labels
      exact ih labels.2
  | more _ _ ih ih' =>
      intro tree member
      exact (List.mem_append.1 member).elim (ih labels tree) (ih' labels tree)
  | @as _ role body _ inside _ =>
      intro tree member labelled
      obtain ⟨original, found, rfl⟩ := List.mem_map.1 member
      have own : (original.withRole role).role = role := by cases original <;> rfl
      rw [own] at labelled
      have makes : body.makes kinds = true := by
        rcases labelled with rfl | rfl <;> simpa [Gram.labels] using labels
      obtain ⟨kind, _, token, rfl, listed⟩ := inside.leaves makes original found
      exact ⟨kind, role, token, rfl, listed⟩
  | rule | hold | held | grown | grow => simp [Gram.labels] at labels

end InterfaceMocks.Grammar

namespace InterfaceMocks.Extraction

open InterfaceMocks.Syntax
open InterfaceMocks.Grammar
open InterfaceMocks.Written (IsName)

def nameKinds : List Kind :=
  [.identifier, .typeIdentifier, .fieldIdentifier, .packageIdentifier, .blankName]

/-- The kinds of leaves that name something in a node of the given kind, where that matters. -/
def labelKinds? : Kind → Option (List Kind)
  | .parameterDeclaration | .variadicParameterDeclaration | .qualifiedType | .methodElement
  | .typeSpec => some nameKinds
  | .importSpec => some (.dotName :: nameKinds)
  | _ => none

/-- Whether what an expression makes itself is spelled as it should be. -/
def Spells (g : Form) : Bool :=
  (g.leaves.all fun entry =>
      (!nameKinds.contains entry.1 || entry.2.isWord)
        && (entry.1 ≠ .dotName || entry.2.isMark "."))
    && g.nodes.all fun entry => (labelKinds? entry.1).all fun kinds => entry.2.labels kinds

/-- Trees in which all leaves that are names are identifiers, and all names are such leaves. -/
inductive Spelled : Tree → Prop where
  | leaf {kind role token} (word : kind ∈ nameKinds → IsName token.text)
      (dot : kind = .dotName → token.text = ".") : Spelled (.leaf kind role token)
  | node {kind role children} (each : ∀ child ∈ children, Spelled child)
      (labelled : ∀ kinds ∈ labelKinds? kind, ∀ child ∈ children,
        child.role = .name ∨ child.role = .package → IsLeafOf kinds child) :
      Spelled (.node kind role children)

theorem keeps_of_spells {g : Form} (spells : Spells g = true) : g.Keeps rules Spelled := by
  simp only [Spells, Bool.and_eq_true, Bool.or_eq_true, Bool.not_eq_true', List.all_eq_true,
    List.contains_eq_mem, decide_eq_false_iff_not, decide_eq_true_eq, Option.all_eq_true] at spells
  obtain ⟨leaves, nodes⟩ := spells
  constructor
  · intro entry member role token admits lexed
    obtain ⟨word, dot⟩ := leaves entry member
    refine .leaf (fun listed => ?_) fun same => ?_
    · exact lexed (Shape.word_of_admits (word.resolve_left (absurd listed)) admits)
    · exact Shape.text_of_admits (dot.resolve_left (absurd same)) admits
  · intro entry member role held trees derives each
    exact .node each fun kinds found => derives.labelled (nodes entry member kinds found)

theorem rules_spell (name : Rule) : Spells (rules name) = true :=
  Rule.forall_of_list (p := fun name => Spells (rules name)) (by decide +kernel) name

theorem source_spells : Spells Statements.source = true := by decide +kernel

theorem parse_spelled {text : String} {source : Source} (parsed : Source.parse? text = some source) :
    ∀ tree ∈ source.trees, Spelled tree := by
  refine Source.parse_forall parsed (fun name => keeps_of_spells (rules_spell name))
    (keeps_of_spells source_spells) (fun token => ?_) fun role tree spelled => ?_
  · exact .leaf (fun listed => absurd listed (by decide)) (fun same => nomatch same)
  · cases spelled with
    | leaf word dot => exact .leaf word dot
    | node each labelled => exact .node each labelled

theorem Spelled.child {tree child : Tree} (spelled : Spelled tree) (member : child ∈ tree.children) :
    Spelled child := by
  cases spelled with
  | leaf => simp [Tree.children] at member
  | node each _ => exact each child member

theorem Spelled.label_leaf {tree child : Tree} {kinds : List Kind} (spelled : Spelled tree)
    (listed : labelKinds? tree.kind = some kinds) (member : child ∈ tree.children)
    (labelled : child.role = .name ∨ child.role = .package) : IsLeafOf kinds child := by
  cases spelled with
  | leaf => simp [Tree.children] at member
  | node _ labels => exact labels kinds listed child member labelled

theorem Spelled.label {tree child : Tree} (spelled : Spelled tree)
    (words : labelKinds? tree.kind = some nameKinds) (member : child ∈ tree.children)
    (labelled : child.role = .name ∨ child.role = .package) : IsName child.text := by
  have own := spelled.child member
  obtain ⟨kind, role, token, rfl, listed⟩ := spelled.label_leaf words member labelled
  cases own with
  | leaf word _ => simpa using word listed

/-! Types. -/

theorem firstType_eq_some {commented : Bool} {siblings : List Tree} {expr : TypeExpr}
    (found : firstType commented siblings = some expr) :
    expr = .unrecognised ∨ ∃ tree ∈ siblings, expr = typeOf tree := by
  induction siblings generalizing commented with
  | nil => simp [firstType] at found
  | cons tree rest ih =>
      rw [firstType] at found
      split at found
      · exact .inl (Option.some.inj found).symm
      · split at found
        · exact .inr ⟨tree, List.mem_cons_self, (Option.some.inj found).symm⟩
        · refine (ih found).imp_right ?_
          rintro ⟨later, member, same⟩
          exact ⟨later, List.mem_cons_of_mem _ member, same⟩

theorem elementType_eq_some {siblings : List Tree} {expr : TypeExpr}
    (found : elementType siblings = some expr) : ∃ tree ∈ siblings, expr = typeOf tree := by
  induction siblings with
  | nil => simp [elementType] at found
  | cons tree rest ih =>
      rw [elementType] at found
      split at found
      · exact ⟨tree, List.mem_cons_self, (Option.some.inj found).symm⟩
      · obtain ⟨later, member, same⟩ := ih found
        exact ⟨later, List.mem_cons_of_mem _ member, same⟩

theorem textAt_eq_some {role : Role} {siblings : List Tree} {text : String}
    (found : Tree.textAt role siblings = some text) :
    ∃ tree ∈ siblings, tree.role = role ∧ tree.text = text := by
  obtain ⟨tree, first, same⟩ := Option.map_eq_some_iff.1 found
  exact ⟨tree, List.mem_of_find?_eq_some first, by simpa using List.find?_some first, same⟩

theorem typeOf_named {tree : Tree} (spelled : Spelled tree) : (typeOf tree).Named := by
  induction spelled with
  | @leaf kind role token word _ =>
      unfold typeOf
      split
      · exact word (by decide)
      · exact word (by decide)
      · trivial
  | @node kind role children each labelled ih =>
      have spelled : Spelled (.node kind role children) := .node each labelled
      unfold typeOf
      split
      · split
        · rename_i package name atPackage atName
          obtain ⟨first, among, isPackage, rfl⟩ := textAt_eq_some atPackage
          obtain ⟨second, among', isName, rfl⟩ := textAt_eq_some atName
          exact ⟨spelled.label rfl among (.inr isPackage), spelled.label rfl among' (.inl isName)⟩
        · trivial
      · split
        · rename_i inner found
          rcases firstType_eq_some found with rfl | ⟨child, member, rfl⟩
          · trivial
          · exact ih child member
        · trivial
      · split
        · rename_i element found
          obtain ⟨child, member, rfl⟩ := elementType_eq_some found
          exact ih child member
        · trivial
      · split
        · rename_i element found
          obtain ⟨child, member, rfl⟩ := elementType_eq_some found
          exact ih child member
        · trivial
      · trivial

/-! Methods, interfaces and imports. -/

theorem child_mem {tree child : Tree} {role : Role} (found : tree.child? role = some child) :
    child ∈ tree.children ∧ child.role = role :=
  ⟨List.mem_of_find?_eq_some found, by simpa using List.find?_some found⟩

theorem declared_named {names : List String} {expr : TypeExpr} (spelled : ∀ name ∈ names, IsName name)
    (named : expr.Named) : ∀ param ∈ declared names expr, param.Named := by
  intro param member
  rw [declared] at member
  split at member
  · obtain rfl := List.mem_singleton.1 member
    exact ⟨fun some => absurd rfl some, named⟩
  · obtain ⟨name, found, rfl⟩ := List.mem_map.1 member
    exact ⟨fun _ => spelled name found, named⟩

theorem declaredParams_named {tree : Tree} (spelled : Spelled tree) :
    ∀ param ∈ declaredParams tree, param.Named := by
  have names (words : labelKinds? tree.kind = some nameKinds) :
      ∀ name ∈ (tree.childrenWith .name).map Tree.text, IsName name := by
    intro name member
    obtain ⟨child, found, rfl⟩ := List.mem_map.1 member
    obtain ⟨among, role⟩ := List.mem_filter.1 found
    exact spelled.label words among (.inl (by simpa using role))
  have type : (((tree.child? .type).map typeOf).getD .unrecognised).Named := by
    cases found : tree.child? .type with
    | none => trivial
    | some child => exact typeOf_named (spelled.child (child_mem found).1)
  unfold declaredParams
  split
  · rename_i kind
    exact declared_named (names (by rw [kind]; rfl)) type
  · rename_i kind
    exact declared_named (names (by rw [kind]; rfl)) trivial
  · simp

theorem paramsOf_named {tree : Tree} (spelled : Spelled tree) :
    ∀ param ∈ paramsOf tree, param.Named := by
  intro param member
  obtain ⟨child, among, found⟩ := List.mem_flatMap.1 member
  exact declaredParams_named (spelled.child among) param found

theorem resultsOf_named {tree : Tree} (spelled : Spelled tree) :
    ∀ param ∈ resultsOf tree, param.Named := by
  intro param member
  rw [resultsOf] at member
  split at member
  · exact paramsOf_named spelled param member
  · obtain rfl := List.mem_singleton.1 member
    exact ⟨fun some => absurd rfl some, typeOf_named spelled⟩

theorem methodOf_named {tree : Tree} (spelled : Spelled tree) {method : Method}
    (found : methodOf? tree = some method) : method.Named := by
  rw [methodOf?] at found
  split at found
  · rename_i kind
    obtain ⟨name, first, rfl⟩ := Option.map_eq_some_iff.1 found
    obtain ⟨among, role⟩ := child_mem first
    refine ⟨spelled.label (by rw [kind]; rfl) among (.inl role), ?_, ?_⟩
    · cases listed : tree.child? .parameters with
      | none => simp
      | some list => exact paramsOf_named (spelled.child (child_mem listed).1)
    · cases listed : tree.child? .result with
      | none => simp
      | some list => exact resultsOf_named (spelled.child (child_mem listed).1)
  · simp at found

theorem interfacesOf_named {tree : Tree} (spelled : Spelled tree) :
    ∀ interface ∈ interfacesOf tree, interface.Named := by
  intro interface member
  rw [interfacesOf] at member
  split at member
  · obtain ⟨spec, among, found⟩ := List.mem_filterMap.1 member
    obtain ⟨inside, kind⟩ := List.mem_filter.1 among
    have spelledSpec := spelled.child inside
    unfold interfaceOf? at found
    split at found
    · rename_i type name atType atName
      split at found
      · obtain rfl := Option.some.inj found
        have words : labelKinds? spec.kind = some nameKinds := by
          rw [show spec.kind = .typeSpec by simpa using kind]
          rfl
        refine ⟨spelledSpec.label words (child_mem atName).1 (.inl (child_mem atName).2), ?_⟩
        intro method listed
        obtain ⟨element, within, isMethod⟩ := List.mem_filterMap.1 listed
        exact methodOf_named ((spelledSpec.child (child_mem atType).1).child within) isMethod
      · simp at found
    · simp at found
  · simp at member

theorem importOf_label {tree : Tree} (spelled : Spelled tree) (kind : tree.kind = .importSpec)
    {entry : String × String} (found : importOf? tree = some entry) :
    entry.2 = "" ∨ entry.2 = "." ∨ IsName entry.2 := by
  obtain ⟨path, -, rfl⟩ := Option.map_eq_some_iff.1 found
  cases named : tree.child? .name with
  | none => exact .inl rfl
  | some name =>
      obtain ⟨among, role⟩ := child_mem named
      have listed : labelKinds? tree.kind = some (.dotName :: nameKinds) := by
        rw [kind]
        rfl
      have own := spelled.child among
      obtain ⟨kind, role, token, rfl, either⟩ := spelled.label_leaf listed among (.inl role)
      cases own with
      | leaf word dot =>
          rcases List.mem_cons.1 either with rfl | either
          · exact .inr (.inl (by simp [dot rfl]))
          · exact .inr (.inr (by simpa using word either))

/-! The contents of a file. -/

theorem mem_extend {imports : Imports} {more : List (String × String)} {entry : String × String}
    (found : entry ∈ (imports.extend more).entries) : entry ∈ imports.entries ∨ entry ∈ more := by
  induction more generalizing imports with
  | nil => exact .inl found
  | cons first rest ih =>
      rcases ih found with early | later
      · rcases Imports.mem_place early with same | old
        · exact .inr (same ▸ List.mem_cons_self)
        · exact .inl old
      · exact .inr (List.mem_cons_of_mem _ later)

theorem importsOf_labels {tree : Tree} (spelled : Spelled tree) :
    ∀ entry ∈ importsOf tree, entry.2 = "" ∨ entry.2 = "." ∨ IsName entry.2 := by
  intro entry member
  rw [importsOf] at member
  split at member
  · obtain ⟨spec, among, found⟩ := List.mem_filterMap.1 member
    have inside {parent : Tree} (spelled : Spelled parent)
        (listed : spec ∈ parent.childrenOf .importSpec) :
        Spelled spec ∧ spec.kind = .importSpec := by
      obtain ⟨member, kind⟩ := List.mem_filter.1 listed
      exact ⟨spelled.child member, by simpa using kind⟩
    have own : Spelled spec ∧ spec.kind = .importSpec := by
      rcases List.mem_append.1 among with alone | grouped
      · exact inside spelled alone
      · obtain ⟨list, listed, within⟩ := List.mem_flatMap.1 grouped
        exact inside (spelled.child (List.mem_filter.1 listed).1) within
    exact importOf_label own.1 own.2 found
  · simp at member

theorem package_isName {text : String} {source : Source} (parsed : Source.parse? text = some source)
    (some : (contents source).package ≠ "") : IsName (contents source).package := by
  cases last : (source.declarations.filterMap packageName?).getLast? with
  | none => simp [contents, last] at some
  | some name =>
      obtain ⟨tree, among, named⟩ := List.mem_filterMap.1 (List.mem_of_getLast? last)
      have kind : tree.kind = .packageClause := by
        by_contra different
        simp [packageName?, different] at named
      obtain ⟨own, found, isName⟩ := packageName_of_clause parsed (List.mem_filter.1 among).1 kind
      obtain rfl := Option.some.inj (found.symm.trans named)
      simpa [contents, last] using isName

def FileContents.toPackage (contents : FileContents) : Package :=
  ⟨contents.package, contents.imports, contents.interfaces⟩

/-- All names that are found in a source are identifiers. -/
theorem parseFile_named {file text : String} {found : FileContents}
    (parsed : parseFile file text = .ok found) : found.toPackage.Named := by
  unfold parseFile at parsed
  split at parsed
  · cases parsed
  · rename_i source read
    dsimp only at parsed
    split at parsed
    · cases parsed
    · rename_i some
      obtain rfl := Except.ok.inj parsed
      have spelled := parse_spelled read
      have declared : ∀ tree ∈ source.declarations, Spelled tree := fun tree member =>
        spelled tree (List.mem_filter.1 member).1
      refine ⟨package_isName read some, ?_, ?_⟩
      · intro entry member
        change entry ∈ (contents source).imports.entries at member
        rw [contents] at member
        dsimp only at member
        split at member
        · simp [Imports.empty] at member
        · rcases mem_extend member with none | listed
          · simp [Imports.empty] at none
          · obtain ⟨tree, among, inside⟩ := List.mem_flatMap.1 listed
            exact importsOf_labels (declared tree among) entry inside
      · intro interface member
        obtain ⟨tree, among, inside⟩ := List.mem_flatMap.1 member
        exact interfacesOf_named (declared tree among) interface inside

end InterfaceMocks.Extraction

namespace InterfaceMocks.Mock

open InterfaceMocks.Extraction
open InterfaceMocks.Written (writtenOf)

/-- For every source that can be read and whose package is tame, the text of its mocks is
generated. -/
theorem generate_extracted (file text : String) (found : FileContents)
    (parsed : parseFile file text = .ok found) (tame : found.toPackage.isTame = true) :
    generate? found.toPackage =
      some (writtenOf (mocks Spacing.canonical found.toPackage) ++ "\n") :=
  generate_eq (sound_of_named (parseFile_named parsed) tame)

/-- A source with names that are not plain. -/
def tameSource : String :=
  "package p\nimport \"io\"\ntype A interface \x7b\n\tF(ключ io.Reader, range []chan int) (_ error)\n\x7d\n"

def tameContents : FileContents where
  package := "p"
  imports := Imports.empty.extend [("io", "")]
  interfaces :=
    [⟨"A", [⟨"F", [⟨"ключ", .qualified "io" "Reader"⟩, ⟨"range", .array none .unrecognised⟩],
      [⟨"_", .named "error"⟩]⟩]⟩]

theorem generate_extracted_tameSource :
    parseFile "input.go" tameSource = .ok tameContents ∧ tameContents.toPackage.isTame = true
      ∧ generate? tameContents.toPackage =
          some (writtenOf (mocks Spacing.canonical tameContents.toPackage) ++ "\n") := by
  have parsed : parseFile "input.go" tameSource = .ok tameContents := by decide +kernel
  have tame : tameContents.toPackage.isTame = true := by decide
  exact ⟨parsed, tame, generate_extracted _ _ _ parsed tame⟩

/-- A source whose second result is read as a name. -/
def mapSource : String :=
  "package p\n\ntype A interface \x7b\n\tF() (int, map[string]int)\n\x7d\n"

def mapContents : FileContents where
  package := "p"
  imports := .empty
  interfaces :=
    [⟨"A", [⟨"F", [], [⟨"int", .array none (.named "int")⟩, ⟨"map", .array none (.named "int")⟩]⟩]⟩]

/-- A source can be read and still have no mocks. -/
theorem generate_mapSource :
    parseFile "input.go" mapSource = .ok mapContents
      ∧ generate? mapContents.toPackage = none := by
  constructor
  · decide +kernel
  · decide +kernel

end InterfaceMocks.Mock
