import InterfaceMocks.Proofs.Preservation.DeclarationTrees
import InterfaceMocks.Proofs.Preservation.ExpressionLayouts

/-!
What is laid out for a declaration of a source is the text of a declaration that settles the same,
with its statements, imports and types each on a line.
-/

namespace InterfaceMocks.Preservation

open InterfaceMocks.Syntax InterfaceMocks.Grammar InterfaceMocks.Written
open InterfaceMocks.Layout (statementTree bodyText receiverText)

/-- A phrase is what a tree is laid out as, and settles as the tree does. -/
structure LaidAs (phrase : String → Tree) (text : String) (tree : Tree) : Prop where
  text : ∀ space, written (phrase space) = space ++ text
  same : ∀ space, settled (phrase space) = settled tree
  firm : ∀ space, Firm (phrase space)

/-- What a phrase settles as is left as it is in a list. -/
theorem LaidAs.firm_tree {phrase : String → Tree} {text : String} {tree : Tree}
    (lays : LaidAs phrase text tree) : Firm tree := by
  have firm := lays.firm ""
  have kind : (phrase "").kind = tree.kind := by rw [← settled_kind, lays.same, settled_kind]
  have role : (phrase "").role = tree.role := by rw [← settled_role, lays.same, settled_role]
  exact ⟨by simpa [Tree.isNamed, kind] using firm.named, by simpa [kind, role] using firm.bound⟩

theorem LaidAs.settled {phrase : String → Tree} {text : String} {tree : Tree}
    {tail tail' : List Tree} (lays : LaidAs phrase text tree) (space : String)
    (later : settledAll tail = settledAll tail') :
    settledAll (phrase space :: tail) = settledAll (tree :: tail') := by
  rw [(lays.firm space).settled, lays.same, later, lays.firm_tree.settled]

/-! Phrases on lines. -/

theorem unnamed_of_mark {tree : Tree} {texts : List String} (mark : isMarkIn texts tree = true) :
    tree.isNamed = false := by
  by_contra named
  rw [isMarkIn_named (by simpa using named)] at mark
  exact absurd mark (by simp)

theorem Lined.cases {items trees : List Tree} (lined : Lined items trees) :
    ∀ tree ∈ trees, tree ∈ items ∨ tree.isNamed = false := by
  induction lined with
  | nil => simp
  | item item rest ih =>
      exact List.forall_mem_cons.2 ⟨.inl List.mem_cons_self,
        fun tree member => (ih tree member).imp_left (List.mem_cons_of_mem _)⟩
  | mark ends rest ih => exact List.forall_mem_cons.2 ⟨.inr (unnamed_of_mark ends), ih⟩

/-- Phrases are what trees are laid out as, one by one. -/
abbrev Listing {Phrase : Type} (phrase : String → Phrase → Tree) (text : Tree → String)
    (phrases : List Phrase) (items : List Tree) : Prop :=
  List.Forall₂ (fun one item => LaidAs (phrase · one) (text item) item) phrases items

theorem settledAll_closed {space text : String} {lead : List Gap} (firm : text ∉ [";", "\x00", ","]) :
    settledAll [mark space text] = settledAll [.leaf .mark .plain ⟨lead, .mark, text⟩] := by
  rw [settledAll_mark firm, settledAll_punct firm]

section Lines

variable {Phrase : Type} {phrase : String → Phrase → Tree} {text : Tree → String}
  {phrases : List Phrase} {items : List Tree}

theorem Listing.written (listing : Listing phrase text phrases items) (space : String) :
    writtenOf (phrases.map (phrase space)) = String.join (items.map fun item => space ++ text item) := by
  induction listing with
  | nil => rfl
  | cons first others ih => simp [first.text, ih]

theorem Listing.settled (listing : Listing phrase text phrases items) (space : String)
    (tail : List Tree) :
    settledAll (phrases.map (phrase space) ++ tail) =
      items.map Preservation.settled ++ settledAll tail := by
  induction listing with
  | nil => rfl
  | cons first others ih =>
      rw [List.map_cons, List.cons_append, (first.firm space).settled, first.same, ih]
      rfl

theorem Listing.firm (listing : Listing phrase text phrases items) : ∀ item ∈ items, Firm item := by
  induction listing with
  | nil => simp
  | cons first others ih => exact List.forall_mem_cons.2 ⟨first.firm_tree, ih⟩

/-- Phrases on lines settle as the trees do, whatever marks are between these. -/
theorem Listing.settled_lined {trees : List Tree} (listing : Listing phrase text phrases items)
    (lined : Lined items trees) (space : String) {tail tail' : List Tree}
    (later : settledAll tail = settledAll tail') :
    settledAll (phrases.map (phrase space) ++ tail) = settledAll (trees ++ tail') := by
  rw [listing.settled, settledAll_lined lined listing.firm, later]

/-- Among marks, the trees are those that are named. -/
theorem Listing.named {trees : List Tree} (listing : Listing phrase text phrases items)
    (lined : Lined items trees) : trees.filter Tree.isNamed = items :=
  lined.filter (fun item member => (listing.firm item member).named) fun _ => unnamed_of_mark

/-- Lines that end with a line feed are lines that start with one. -/
theorem join_lines (items : List Tree) (text : Tree → String) (rest : String) :
    "\n" ++ (String.join (items.map fun item => "\t" ++ text item ++ "\n") ++ ("" ++ rest)) =
      String.join (items.map fun item => lineAt 1 ++ text item) ++ ("\n" ++ rest) := by
  have shifted := join_shift (items.map fun item => "\t" ++ text item)
  simp only [List.map_map, Function.comp_def] at shifted
  rw [← String.append_assoc, shifted]
  simp [lineAt, Layout.tabs, ← String.append_assoc]

theorem listing_of {Sound : Phrase → Prop}
    (each : ∀ item ∈ items, ∃ one, Sound one ∧ LaidAs (phrase · one) (text item) item) :
    ∃ phrases, (∀ one ∈ phrases, Sound one) ∧ Listing phrase text phrases items := by
  induction items with
  | nil => exact ⟨[], by simp, .nil⟩
  | cons item items ih =>
      simp only [List.forall_mem_cons] at each
      obtain ⟨one, sound, lays⟩ := each.1
      obtain ⟨phrases, sounds, listing⟩ := ih each.2
      exact ⟨one :: phrases, List.forall_mem_cons.2 ⟨sound, sounds⟩, .cons lays listing⟩

end Lines

/-! Statements. -/

section Statements

variable {tree : Tree} {items bodies children : List Tree} {kind : Kind} {role : Role}

theorem statement_lays (form : StatementForm tree) (known : tree.kind ∈ statementKinds)
    (laid : Laid tree) :
    ∃ statement : Statement, statement.Sound
      ∧ LaidAs (Statement.tree · statement) (statementTree tree) tree := by
  cases form with
  | other foreign => exact absurd known foreign
  | @returnNothing lead =>
      refine ⟨.return .nil, trivial, fun space => ?_, fun space => ?_,
        fun space => ⟨rfl, by simp [Statement.tree]⟩⟩
      · rw [Layout.return_nothing ⟨_, rfl, rfl⟩]
        simp [Statement.tree]
      · simp only [Statement.tree, settled]
        rw [settledAll_keyword (by decide), settledAll_punct (by decide)]
  | @«return» lead first items trees joined forms =>
      have member : Syntax.Tree.node .expressionList .plain trees ∈
          [.leaf .mark .plain ⟨lead, .word, "return"⟩, .node .expressionList .plain trees] := by simp
      have listLaid := laid.below member
      obtain ⟨values, sound, lays⟩ := arguments_lay (expressed _) listLaid le_rfl (by decide)
        joined.subset forms
      have filtered := joined.filter (fun item member => (lays.firm item member).named) fun _ => rfl
      have firm (trees : List Tree) : Firm (.node .expressionList .plain trees) :=
        ⟨rfl, by simp [Tree.kind]⟩
      obtain ⟨value, rest, rfl⟩ : ∃ value rest, values = .cons value rest := by
        cases lays
        exact ⟨_, _, rfl⟩
      refine ⟨.return (.cons value rest), sound, fun space => ?_, fun space => ?_,
        fun space => ⟨rfl, by simp [Statement.tree]⟩⟩
      · rw [Layout.return_values ⟨_, rfl, rfl⟩ listLaid.plains, filtered]
        simp [Statement.tree, lays.written, String.append_assoc]
      · have whole := lays.settled " " []
        have own := @settledAll_joined _ _ [] joined lays.firm
        simp only [List.append_nil] at whole own
        simp only [Statement.tree, settled]
        rw [settledAll_keyword (by decide), settledAll_punct (by decide), (firm _).settled,
          (firm _).settled, settled, settled, whole, own]
  | @expression value form free =>
      obtain ⟨plain, expr, sound, lays⟩ := (expressed _).inside laid le_rfl (by decide)
        (own_mem List.mem_cons_self) form
      refine ⟨.expression expr, ⟨sound, fun word first => ?_⟩, fun space => ?_, fun space => ?_,
        fun space => ⟨rfl, by simp [Statement.tree]⟩⟩
      · -- what is laid out starts with the word that the source starts with
        obtain ⟨gaps, rest, same⟩ := lays.lead word first
        exact free ⟨gaps, .word, word⟩ (by simp [same]) rfl
      · simp [Layout.expressionStatement_eq laid.plains, (firm_expression lays.kind_mem).named,
          Statement.tree, lays.text]
      · simp only [Statement.tree, settled]
        rw [lays.settled space rfl, plain]

/-- The body of a function, if there is one. -/
theorem body_lays (form : BodyForm bodies) (laid : Laid (.node kind role children))
    (inside : ∀ tree ∈ bodies, tree ∈ children) :
    ∃ body : Option (List Statement), (∀ statements ∈ body, ∀ one ∈ statements, one.Sound)
      ∧ writtenOf (body.toList.map bodyTree) = bodyText bodies
      ∧ settledAll (body.toList.map bodyTree) = settledAll bodies
      ∧ ∀ tree ∈ bodies, tree.role = .body := by
  cases form with
  | none => exact ⟨none, by simp, rfl, rfl, by simp⟩
  | @block tree given =>
      obtain ⟨a, b, items, trees, rfl, lined, forms⟩ := given_block given
      have blockLaid : Laid (.node .block .body (braced a b trees)) :=
        laid.below (inside _ List.mem_cons_self)
      have among : ∀ item ∈ items, item ∈ braced a b trees := fun item member => by
        simp [lined.subset item member]
      obtain ⟨statements, sound, listing⟩ := listing_of fun item member =>
        statement_lays (forms item member)
          (blockLaid.mem_context (among item member) (by decide) (by decide))
          (blockLaid.below (among item member))
      refine ⟨some statements, by simpa using sound, ?_, ?_, by simp⟩
      · have named : (braced a b trees).filter Tree.isNamed = items := by
          simp [braced, listing.named lined, Tree.isNamed, Tree.kind]
        simp only [bodyText, List.head?_cons, Option.map_some, Option.getD_some, Grammar.withRole_node]
        rw [Layout.block_eq blockLaid.plains, named, join_lines, ← listing.written (lineAt 1)]
        simp [bodyTree, ← String.append_assoc]
      · have firm (trees : List Tree) : Firm (.node .block .body trees) := ⟨rfl, by simp [Tree.kind]⟩
        simp only [Option.toList_some, List.map_cons, List.map_nil, bodyTree, Grammar.withRole_node]
        rw [(firm _).settled, (firm _).settled, settled, settled, settledAll_mark (by decide),
          settledAll_punct (by decide),
          listing.settled_lined lined (lineAt 1) (settledAll_closed (by decide))]

end Statements

/-! Imports. -/

section Imports

variable {tree : Tree}

@[simp] theorem ImportName.role_leaf (name : ImportName) (lead : List Gap) :
    (name.leaf lead).role = .name := by
  cases name <;> rfl

theorem ImportName.settled_leaf (name : ImportName) (space : String) (lead : List Gap)
    {tail tail' : List Tree} (later : settledAll tail = settledAll tail') :
    settledAll (name.tree space :: tail) = settledAll (name.leaf lead :: tail') := by
  have firm : Firm (name.tree space) ∧ Firm (name.leaf lead) := by
    cases name <;> exact ⟨firm_leaf (by decide) (by decide), firm_leaf (by decide) (by decide)⟩
  have same : settled (name.tree space) = settled (name.leaf lead) := by cases name <;> rfl
  rw [firm.1.settled, firm.2.settled, same, later]

theorem ImportName.written_tree (name : ImportName) (space : String) (lead : List Gap) :
    written (name.tree space) = space ++ (name.leaf lead).text := by
  cases name <;> simp [ImportName.tree, ImportName.leaf]

theorem import_lays (form : ImportForm tree) (laid : Laid tree) :
    ∃ spec : Import, spec.Sound ∧ LaidAs (Import.tree · spec) (Layout.importSpec tree) tree := by
  cases form with
  | @plain lead quote =>
      refine ⟨⟨none, quote⟩, ⟨by simp, Quote.sound_of_laid (laid.below List.mem_cons_self)⟩,
        fun space => ?_, fun space => ?_, fun space => ⟨rfl, by simp [Import.tree]⟩⟩
      · rw [← List.nil_append [_], Layout.importSpec_eq (by simp) (by simp)]
        simp [Import.tree, Layout.aliasText]
      · simp only [Import.tree, settled]
        rw [quote.settled_leaf]
  | @named a b name quote sound =>
      refine ⟨⟨some name, quote⟩, ⟨by simpa using sound,
          Quote.sound_of_laid (laid.below (List.mem_cons_of_mem _ List.mem_cons_self))⟩,
        fun space => ?_, fun space => ?_, fun space => ⟨rfl, by simp [Import.tree]⟩⟩
      · rw [← List.singleton_append, Layout.importSpec_eq (by simp) (by simp)]
        simp [Import.tree, Layout.aliasText, name.written_tree space a, String.append_assoc]
      · simp only [Import.tree, settled]
        rw [name.settled_leaf space a (quote.settled_leaf _ _ _ _)]

end Imports

/-! Types with their names. -/

section Specs

variable {tree : Tree}

theorem SpecForm.isItem (form : SpecForm tree) (laid : Laid tree) :
    IsItem [.typeSpec, .typeAlias] tree := by
  cases form with
  | unbuilt foreign => simp [laid.isBuilt] at foreign
  | renamed => exact .inr ⟨.typeAlias, by simp, _, rfl⟩
  | plain => exact .inr ⟨.typeSpec, by simp, _, rfl⟩

theorem spec_lays (form : SpecForm tree) (laid : Laid tree) :
    ∃ spec : TypeSpec, spec.Sound ∧ ∀ indent,
      LaidAs (TypeSpec.tree · indent spec) (Layout.typeSpec indent tree) tree := by
  have firm (token : Token) : Firm (.leaf .typeIdentifier .name token) :=
    firm_leaf (by decide) (by decide)
  cases form with
  | unbuilt foreign => simp [laid.isBuilt] at foreign
  | @renamed a b name target isName typed =>
      obtain ⟨type, sound, lays⟩ := (recognised _).below laid le_rfl (by decide)
        (List.mem_cons_of_mem _ (List.mem_cons_of_mem _ List.mem_cons_self)) typed
      refine ⟨⟨true, name, type⟩, ⟨isName, sound⟩, fun indent => ⟨fun space => ?_, fun space => ?_,
        fun space => ⟨rfl, by simp [TypeSpec.tree]⟩⟩⟩
      · rw [Layout.typeSpec_alias rfl rfl (by simp), layout_withRole]
        apply String.toList_injective
        simp [TypeSpec.tree, lays.text]
      · simp only [TypeSpec.tree, settled, Written.name, if_true]
        rw [(firm _).settled, (firm _).settled, settledAll_mark (by decide),
          settledAll_punct (by decide), lays.settled " " rfl]
        rfl
  | @plain a name target isName typed =>
      obtain ⟨type, sound, lays⟩ := (recognised _).below laid le_rfl (by decide)
        (List.mem_cons_of_mem _ List.mem_cons_self) typed
      refine ⟨⟨false, name, type⟩, ⟨isName, sound⟩, fun indent => ⟨fun space => ?_, fun space => ?_,
        fun space => ⟨rfl, by simp [TypeSpec.tree]⟩⟩⟩
      · rw [Layout.typeSpec_single rfl (by simp), layout_withRole]
        simp [TypeSpec.tree, lays.text, String.append_assoc]
      · simp only [TypeSpec.tree, settled, Written.name, Bool.false_eq_true, if_false]
        rw [(firm _).settled, (firm _).settled, lays.settled " " rfl]
        rfl

end Specs

/-! Declarations. -/

section Declarations

variable {tree : Tree} {children bodies results receivers : List Tree} {kind : Kind}

abbrev Declaration.Lays (declaration : Declaration) (tree : Tree) : Prop :=
  LaidAs (Declaration.tree · declaration) (Layout.declaration tree) tree

theorem Declaration.firm (declaration : Declaration) (space : String) :
    Firm (declaration.tree space) := by
  cases declaration with
  | function receiver => cases receiver <;> exact ⟨rfl, by simp [Declaration.tree]⟩
  | _ => exact ⟨rfl, by simp [Declaration.tree]⟩

theorem imports_lay {a b c : List Gap} {items trees : List Tree} (lined : Lined items trees)
    (forms : ∀ item ∈ items, ImportForm item)
    (laid : Laid (.node .importSpecList .plain (enclosed b c trees []))) :
    ∃ specs : List Import, (∀ spec ∈ specs, spec.Sound)
      ∧ (Declaration.imports specs).Lays (.node .importDeclaration .plain
          [.leaf .mark .plain ⟨a, .word, "import"⟩,
           .node .importSpecList .plain (enclosed b c trees [])]) := by
  obtain ⟨specs, sound, listing⟩ := listing_of fun item member =>
    import_lays (forms item member) (laid.below (by simp [lined.subset item member]))
  have isSpec : (enclosed b c trees []).filter Layout.isSpec = items := by
    have each : ∀ item ∈ items, Layout.isSpec item = true := fun item member => by
      cases forms item member <;> rfl
    have others : ∀ tree, isMarkIn [";", "\x00"] tree = true → Layout.isSpec tree = false := by
      intro tree ends
      have mark := unnamed_of_mark ends
      simp only [Tree.isNamed, bne_eq_false_iff_eq] at mark
      simp [Layout.isSpec, mark]
    simp [lined.filter each others, Layout.isSpec, Tree.kind]
  refine ⟨specs, sound, fun space => ?_, fun space => ?_, Declaration.firm _⟩
  · -- the specs are found among the terminators between them
    have text : Layout.declaration (.node .importDeclaration .plain
        [.leaf .mark .plain ⟨a, .word, "import"⟩,
          .node .importSpecList .plain (enclosed b c trees [])]) =
        Layout.importBlock (items.map Layout.importSpec) := by
      rw [← isSpec]
      exact Layout.import_list
    rw [text]
    cases listing with
    | nil =>
        apply String.toList_injective
        simp [Declaration.tree, Layout.importBlock]
    | cons first others =>
        have block := Listing.written (.cons first others) (lineAt 1)
        rw [Layout.importBlock_eq (by simp), List.map_map, Function.comp_def, join_lines, ← block]
        apply String.toList_injective
        simp [Declaration.tree]
  · have firm (trees : List Tree) : Firm (.node .importSpecList .plain trees) :=
      ⟨rfl, by simp [Tree.kind]⟩
    simp only [Declaration.tree, settled]
    rw [settledAll_keyword (by decide), settledAll_punct (by decide), (firm _).settled,
      (firm _).settled, settled, settled, settledAll_mark (by decide), settledAll_punct (by decide),
      listing.settled_lined lined (lineAt 1) (settledAll_closed (by decide))]
    rfl

theorem type_lay {lead : List Gap} {spec : TypeSpec} (form : SpecForm tree)
    (lays : LaidAs (TypeSpec.tree · 0 spec) (Layout.typeSpec 0 tree) tree)
    (laid : Laid (.node .typeDeclaration .plain [.leaf .mark .plain ⟨lead, .word, "type"⟩, tree])) :
    (Declaration.type spec).Lays
      (.node .typeDeclaration .plain [.leaf .mark .plain ⟨lead, .word, "type"⟩, tree]) := by
  refine ⟨fun space => ?_, fun space => ?_, Declaration.firm _⟩
  · have isSpec := form.isItem (laid.below (List.mem_cons_of_mem _ List.mem_cons_self))
    have named : tree.isNamed = true := lays.firm_tree.named
    have other : tree.kind ≠ .mark := by simpa [Tree.isNamed] using named
    have alone : Layout.isGrouped (.node .typeDeclaration .plain
        [.leaf .mark .plain ⟨lead, .word, "type"⟩, tree]) = false := by
      simp [Layout.isGrouped, other]
    have isItem : ∀ child ∈ [Syntax.Tree.leaf .mark .plain ⟨lead, .word, "type"⟩, tree],
        IsItem [.typeSpec, .typeAlias] child :=
      List.forall_mem_cons.2 ⟨.inl rfl, by simpa using isSpec⟩
    have single : [Syntax.Tree.leaf .mark .plain ⟨lead, .word, "type"⟩, tree].filter
        Tree.isNamed = [tree] := by
      rw [List.filter_cons_of_neg (by simp [Tree.isNamed, Tree.kind]), List.filter_cons_of_pos named]
      rfl
    change _ = space ++ Layout.typeDeclaration _
    rw [Layout.typeDeclaration_plain laid.plains isItem, alone, single]
    apply String.toList_injective
    simp [Declaration.tree, lays.text]
  · simp only [Declaration.tree, settled]
    rw [settledAll_keyword (by decide), settledAll_punct (by decide), lays.settled " " rfl]

theorem types_lay {a b c : List Gap} {items trees : List Tree} (lined : Lined items trees)
    (forms : ∀ item ∈ items, SpecForm item)
    (laid : Laid (.node .typeDeclaration .plain
      (.leaf .mark .plain ⟨a, .word, "type"⟩ :: enclosed b c trees []))) :
    ∃ specs : List TypeSpec, (∀ spec ∈ specs, spec.Sound)
      ∧ (Declaration.types specs).Lays (.node .typeDeclaration .plain
          (.leaf .mark .plain ⟨a, .word, "type"⟩ :: enclosed b c trees [])) := by
  obtain ⟨specs, sound, listing⟩ := listing_of fun item member => by
    obtain ⟨spec, sound, lays⟩ :=
      spec_lays (forms item member) (laid.below (by simp [lined.subset item member]))
    exact ⟨spec, sound, lays 1⟩
  refine ⟨specs, sound, fun space => ?_, fun space => ?_, Declaration.firm _⟩
  · have isItem : ∀ tree ∈ Syntax.Tree.leaf .mark .plain ⟨a, .word, "type"⟩ :: enclosed b c trees [],
        IsItem [.typeSpec, .typeAlias] tree := by
      simp only [List.mem_cons, List.mem_append, List.not_mem_nil, or_false, false_or]
      rintro tree (rfl | rfl | member | rfl)
      · exact .inl rfl
      · exact .inl rfl
      · rcases lined.cases tree member with among | unnamed
        · exact (forms tree among).isItem (laid.below (by simp [member]))
        · exact .inl unnamed
      · exact .inl rfl
    have named : (Syntax.Tree.leaf .mark .plain ⟨a, .word, "type"⟩ :: enclosed b c trees []).filter
        Tree.isNamed = items := by
      simp [listing.named lined, Tree.isNamed, Tree.kind]
    have grouped : Layout.isGrouped (.node .typeDeclaration .plain
        (.leaf .mark .plain ⟨a, .word, "type"⟩ :: enclosed b c trees [])) = true := by
      simp [Layout.isGrouped, Tree.kind]
    change _ = space ++ Layout.typeDeclaration _
    rw [Layout.typeDeclaration_plain laid.plains isItem, grouped, if_pos rfl, named, join_lines,
      ← listing.written (lineAt 1)]
    apply String.toList_injective
    simp [Declaration.tree]
  · simp only [Declaration.tree, settled]
    rw [settledAll_keyword (by decide), settledAll_punct (by decide), settledAll_mark (by decide),
      settledAll_punct (by decide),
      listing.settled_lined lined (lineAt 1) (settledAll_closed (by decide))]
    rfl

/-- A list that is no result settles as it does where it is laid out. -/
theorem Parameters.Lists.settled {parameters : Parameters} {list : Tree} {role : Role}
    {tail tail' : List Tree} (lists : parameters.Lists list) (bound : role ≠ .result)
    (space : String) (indent : Nat) (later : settledAll tail = settledAll tail') :
    settledAll (listTree role space (parameters.trees indent) :: tail) =
      settledAll (list.withRole role :: tail') := by
  obtain ⟨children, rfl⟩ := lists.node
  have firm (children : List Tree) : Firm (.node .parameterList role children) :=
    ⟨rfl, by simp [Tree.role, bound]⟩
  have same := lists.same role space indent
  simp only [Grammar.withRole_node] at same ⊢
  rw [listTree, (firm _).settled, (firm _).settled, ← listTree, same, later]

/-- A list of parameters that a construct is built from. -/
theorem list_below {list : Tree} {own : Role} (listed : Given [] Types.parameters [list])
    (laid : Laid (.node kind .plain children)) (member : list.withRole own ∈ children) :
    ∃ parameters : Parameters, parameters.Sound ∧ parameters.Lists list := by
  have less := @size_lt _ _ kind .plain member
  exact list_lays (recognised (size (.node kind .plain children))) listed
    (laid_withRole.1 (laid.below member)) (by simp at less; omega)

structure SignatureLays (parameters : Parameters) (result : Result) (body : Option (List Statement))
    (list : Tree) (results bodies : List Tree) : Prop where
  sound : parameters.Sound
  soundResult : result.Sound
  soundBody : ∀ statements ∈ body, ∀ one ∈ statements, one.Sound
  text : writtenOf (listTree .parameters "" (parameters.trees 0)
      :: (result.trees 0 ++ body.toList.map bodyTree)) =
    "(" ++ (", ".intercalate (Layout.parameterTexts 0 list.children) ++ ")")
      ++ Layout.resultText 0 results ++ bodyText bodies
  same : settledAll (listTree .parameters "" (parameters.trees 0)
      :: (result.trees 0 ++ body.toList.map bodyTree)) =
    settledAll (list.withRole .parameters :: (results ++ bodies))
  isResult : ∀ tree ∈ results, tree.role = .result
  isBody : ∀ tree ∈ bodies, tree.role = .body

theorem signature_lays {list : Tree} (listed : Given [] Types.parameters [list])
    (resulting : ResultForm results) (bodied : BodyForm bodies)
    (laid : Laid (.node kind .plain children)) (known : constituents kind ⊆ typeContext)
    (inside : ∀ tree ∈ list.withRole .parameters :: (results ++ bodies), tree ∈ children) :
    ∃ parameters result body, SignatureLays parameters result body list results bodies := by
  obtain ⟨parameters, sound, lists⟩ := list_below listed laid (inside _ List.mem_cons_self)
  obtain ⟨result, soundResult, lays⟩ := result_lays (recognised _) resulting laid le_rfl
    known fun tree member => inside tree (by simp [member])
  obtain ⟨body, soundBody, text, same, roles⟩ := body_lays bodied laid
    fun tree member => inside tree (by simp [member])
  refine ⟨parameters, result, body, sound, soundResult, soundBody, ?_,
    lists.settled Role.noConfusion "" 0 (lays.same 0 _ _ same), lays.roles, roles⟩
  rw [← lists.text]
  simp [listTree, lays.text, text, String.append_assoc]

section Functions

variable {a b : List Gap} {name : String} {parameters first : Parameters} {result : Result}
  {body : Option (List Statement)} {list receiver : Tree}

theorem function_lay (lays : SignatureLays parameters result body list results bodies) :
    (Declaration.function none name parameters result body).Lays (.node .functionDeclaration .plain
      (.leaf .mark .plain ⟨a, .word, "func"⟩ :: .leaf .identifier .name ⟨b, .word, name⟩ ::
        list.withRole .parameters :: (results ++ bodies))) := by
  refine ⟨fun space => ?_, fun space => ?_, Declaration.firm _⟩
  · change _ = space ++ Layout.functionDeclaration _
    rw [← List.nil_append (_ :: _ :: (results ++ bodies)), Layout.functionDeclaration_eq rfl
      (by simp) rfl (by simp) lays.isResult lays.isBody, children_withRole, ← lays.text]
    apply String.toList_injective
    simp [Declaration.tree, receiverText]
  · have firm (token : Token) : Firm (.leaf .identifier .name token) :=
      firm_leaf (by decide) (by decide)
    simp only [Declaration.tree, settled, Written.name]
    rw [settledAll_keyword (by decide), settledAll_punct (by decide), (firm _).settled,
      (firm _).settled, lays.same]
    rfl

theorem method_lay (receives : first.Lists receiver)
    (lays : SignatureLays parameters result body list results bodies) :
    (Declaration.function (some first) name parameters result body).Lays
      (.node .methodDeclaration .plain
        (.leaf .mark .plain ⟨a, .word, "func"⟩ :: receiver.withRole .receiver ::
          .leaf .fieldIdentifier .name ⟨b, .word, name⟩ ::
          list.withRole .parameters :: (results ++ bodies))) := by
  refine ⟨fun space => ?_, fun space => ?_, Declaration.firm _⟩
  · have whole := @Layout.functionDeclaration_eq .plain .methodDeclaration
      (.leaf .mark .plain ⟨a, .word, "func"⟩) (.leaf .fieldIdentifier .name ⟨b, .word, name⟩)
      (list.withRole .parameters) [receiver.withRole .receiver] results bodies rfl (by simp) rfl
      (by simp) lays.isResult lays.isBody
    rw [List.singleton_append] at whole
    change _ = space ++ Layout.functionDeclaration _
    rw [whole, children_withRole, ← lays.text]
    apply String.toList_injective
    simp [Declaration.tree, listTree, receiverText, receives.text]
  · have firm (token : Token) : Firm (.leaf .fieldIdentifier .name token) :=
      firm_leaf (by decide) (by decide)
    have later : settledAll (Written.name .fieldIdentifier .name " " name
          :: listTree .parameters "" (parameters.trees 0)
          :: (result.trees 0 ++ body.toList.map bodyTree)) =
        settledAll (.leaf .fieldIdentifier .name ⟨b, .word, name⟩ :: list.withRole .parameters
          :: (results ++ bodies)) := by
      rw [Written.name, (firm _).settled, (firm _).settled, lays.same]
      rfl
    simp only [Declaration.tree, settled]
    rw [settledAll_keyword (by decide), settledAll_punct (by decide),
      receives.settled Role.noConfusion " " 0 later]

end Functions

/-- Every declaration that is laid out anew is recognised. -/
theorem declaration_lays (form : DeclarationForm tree) (known : tree.kind ∈ declarationKinds)
    (laid : Laid tree) : ∃ declaration : Declaration, declaration.Sound ∧ declaration.Lays tree := by
  cases form with
  | other foreign => exact absurd (List.mem_cons_of_mem _ known) foreign
  | unbuilt foreign => simp [laid.isBuilt] at foreign
  | @package a b text isName =>
      have firm (token : Token) : Firm (.leaf .packageIdentifier .plain token) :=
        firm_leaf (by decide) (by decide)
      refine ⟨.package text, isName, fun space => ?_, fun space => ?_, Declaration.firm _⟩
      · rw [Layout.package_eq ⟨_, rfl, rfl⟩ rfl]
        apply String.toList_injective
        simp [Declaration.tree]
      · simp only [Declaration.tree, settled, Written.name]
        rw [settledAll_keyword (by decide), settledAll_punct (by decide), (firm _).settled,
          (firm _).settled]
        rfl
  | @«import» lead spec form =>
      obtain ⟨spec', sound, lays⟩ := import_lays form
        (laid.below (List.mem_cons_of_mem _ List.mem_cons_self))
      refine ⟨.import spec', sound, fun space => ?_, fun space => ?_, Declaration.firm _⟩
      · obtain ⟨children, rfl⟩ : IsNode .importSpec .plain spec := by
          cases form <;> exact ⟨_, rfl⟩
        change _ = space ++ Layout.importDeclaration _
        rw [Layout.import_single]
        apply String.toList_injective
        simp [Declaration.tree, lays.text]
      · simp only [Declaration.tree, settled]
        rw [settledAll_keyword (by decide), settledAll_punct (by decide), lays.settled " " rfl]
  | imports lined forms =>
      obtain ⟨specs, sound, lays⟩ := imports_lay lined forms
        (laid.below (List.mem_cons_of_mem _ List.mem_cons_self))
      exact ⟨.imports specs, sound, lays⟩
  | @type lead spec form =>
      obtain ⟨spec, sound, lays⟩ := spec_lays form
        (laid.below (List.mem_cons_of_mem _ List.mem_cons_self))
      exact ⟨.type spec, sound, type_lay form (lays 0) laid⟩
  | types lined forms =>
      obtain ⟨specs, sound, lays⟩ := types_lay lined forms laid
      exact ⟨.types specs, sound, lays⟩
  | function isName listed resulting bodied =>
      obtain ⟨parameters, result, body, lays⟩ := signature_lays listed resulting bodied laid
        (by decide) (fun tree => List.mem_cons_of_mem _ ∘ List.mem_cons_of_mem _)
      exact ⟨.function none _ parameters result body,
        ⟨isName, lays.sound, lays.soundResult, by simp, lays.soundBody⟩, function_lay lays⟩
  | method received isName free listed resulting bodied =>
      obtain ⟨first, sound, receives⟩ := list_below received laid
        (List.mem_cons_of_mem _ List.mem_cons_self)
      obtain ⟨parameters, result, body, lays⟩ := signature_lays listed resulting bodied laid
        (by decide)
        (fun tree => List.mem_cons_of_mem _ ∘ List.mem_cons_of_mem _ ∘ List.mem_cons_of_mem _)
      exact ⟨.function (some first) _ parameters result body,
        ⟨isName, lays.sound, lays.soundResult, by simpa using ⟨sound, free⟩, lays.soundBody⟩,
        method_lay receives lays⟩

end Declarations

end InterfaceMocks.Preservation
