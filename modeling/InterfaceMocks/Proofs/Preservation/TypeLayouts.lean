import InterfaceMocks.Proofs.Preservation.ExpressionTrees
import InterfaceMocks.Proofs.Preservation.ParameterLayouts

/-!
What is laid out for a type of a source is the text of a type that settles the same. A type is
recognised from those that it is made of, by induction on the size of its tree.
-/

namespace InterfaceMocks.Preservation

open InterfaceMocks.Syntax InterfaceMocks.Grammar InterfaceMocks.Written
open InterfaceMocks.Layout (parameterOf parameterTexts parameterTexts_eq parameterTrees isLoneType
  resultOf resultText isField rowOf cell widthOf)

@[simp] theorem children_withRole {tree : Tree} {role : Role} :
    (tree.withRole role).children = tree.children := by cases tree <;> rfl

/-! Results. -/

structure Result.Lays (result : Result) (results : List Tree) : Prop where
  text : ∀ indent, writtenOf (result.trees indent) = resultText indent results
  same : ∀ indent tail tail', settledAll tail = settledAll tail' →
    settledAll (result.trees indent ++ tail) = settledAll (results ++ tail')
  roles : ∀ tree ∈ results, tree.role = .result
  none : result = .none → ∀ tree ∈ results,
    tree.kind = .parameterList ∧ parameterTrees tree.children = []

section Results

variable {bound : Nat} {kind : Kind} {role : Role} {children results : List Tree} {list : Tree}

/-- A parameter that is a type alone. -/
theorem Label.Lays.alone {label : Label} {type : Ty} {item : Tree} (lays : label.Lays type item)
    (unnamed : isUnnamed item = true) : label = ⟨false, []⟩ := by
  obtain ⟨variadic, names⟩ := label
  simp only [isUnnamed, Bool.and_eq_true, decide_eq_true_eq, Option.isNone_iff_eq_none] at unnamed
  cases variadic with
  | true =>
      -- a variadic parameter is of a kind of its own
      have kind := congrArg Tree.kind (lays.same "" 0)
      rw [settled_kind, settled_kind, unnamed.1] at kind
      cases names <;> simp [Label.tree, Tree.kind] at kind
  | false =>
      cases names with
      | nil => rfl
      | cons first more =>
          have shared := lays.shared rfl (by simp)
          simp [isShared, unnamed.2] at shared

/-- What is found between the parentheses around one type. -/
theorem Label.Lays.settled_alone {type : Ty} {item : Tree} (lays : Label.Lays ⟨false, []⟩ type item)
    (indent : Nat) :
    settled item = .node .parameterDeclaration .plain [settled (type.tree .type " " indent)] := by
  rw [← lays.same " " indent, Label.tree, settled, (firm_of_kind (type.tree_kind " ")).settled,
    settledAll]

theorem Label.Lays.text_alone {type : Ty} {item : Tree} (lays : Label.Lays ⟨false, []⟩ type item)
    (indent : Nat) : written (type.tree .result " " indent) = " " ++ parameterOf indent item := by
  rw [← lays.text " " indent, Label.tree, written, type.tokens_role .result .type]
  simp [written]

theorem Parameters.Lays.alone {type : Ty} {trees : List Tree}
    (lays : (Parameters.cons ⟨false, []⟩ type .nil).Lays (parameterTrees trees)) :
    isLoneType trees = true := by
  generalize kept : parameterTrees trees = items at lays
  cases lays with
  | cons first others =>
      cases others with
      | nil => simpa [isLoneType, kept, isUnnamed] using first.unnamed rfl

theorem Parameters.Lays.needsList {parameters : Parameters} {trees : List Tree}
    (lays : parameters.Lays (parameterTrees trees)) (some : parameterTrees trees ≠ [])
    (several : isLoneType trees ≠ true) : parameters.needsList = true := by
  unfold Parameters.needsList
  split
  · generalize parameterTrees trees = items at lays some
    cases lays
    exact absurd rfl some
  · exact absurd lays.alone several
  · rfl

/-- A list of results, with parentheses only where they are needed. -/
theorem Parameters.Lists.result {parameters : Parameters} (lists : parameters.Lists list)
    (sound : parameters.Sound) :
    ∃ result : Result, result.Sound ∧ result.Lays [list.withRole .result] := by
  obtain ⟨children, rfl⟩ := lists.node
  have text := lists.text
  obtain ⟨-, items, texts, same, found⟩ := lists
  have settles (tail : List Tree) :
      settledAll ([(Syntax.Tree.node .parameterList .plain children).withRole .result] ++ tail) =
        freed (settled (.node .parameterList .result children)) ++ settledAll tail :=
    settledAll_named rfl
  simp only [Grammar.withRole_node] at settles same ⊢
  simp only [children_node, settled] at items texts found text
  generalize kept : parameterTrees children = trees at items texts found
  -- no result, one type without parentheses, or a list as it is
  cases items with
  | nil =>
      refine ⟨.none, trivial, fun indent => ?_, fun indent tail tail' later => ?_, by simp, fun _ => ?_⟩
      · simp [Result.trees, resultText, resultOf, texts]
      · rw [settles, ← later]
        simp [Result.trees, freed, settled, Tree.kind, Tree.role, found]
      · simp [Tree.kind, kept]
  | @cons label type rest item items first others =>
      by_cases lone : isLoneType children = true
      · have single := lone
        rw [isLoneType, kept] at single
        cases others with
        | cons => simp at single
        | nil =>
            obtain rfl := first.alone (by simpa [isUnnamed] using single)
            refine ⟨.lone type, sound.2.1, fun indent => ?_, fun indent tail tail' later => ?_,
              by simp, by simp⟩
            · simp [Result.trees, resultText, resultOf, texts, lone, first.text_alone]
            · have freed : freed (settled (.node .parameterList .result children)) =
                  [settled (type.tree .result " " indent)] := by
                simp [Preservation.freed, settled, found, isLoneType, first.settled_alone indent,
                  resultTypes, Tree.child?, ← settled_withRole, Ty.withRole_tree]
              rw [settles, freed, ← later]
              exact (firm_of_kind (type.tree_kind " ")).settled
      · refine ⟨.list (.cons label type rest), ⟨sound, ?_⟩, fun indent => ?_,
          fun indent tail tail' later => ?_, by simp, by simp⟩
        · exact Parameters.Lays.needsList (kept ▸ .cons first others) (by simp [kept]) lone
        · simp [Result.trees, resultText, resultOf, texts, lone, listTree, text, String.append_assoc]
        · rw [settles, ← same .result " " indent, ← later]
          exact settledAll_named rfl

theorem result_lays (recognised : Recognised bound) (form : ResultForm results)
    (laid : Laid (.node kind role children)) (within : size (.node kind role children) ≤ bound)
    (known : constituents kind ⊆ typeContext) (inside : ∀ tree ∈ results, tree ∈ children) :
    ∃ result : Result, result.Sound ∧ result.Lays results := by
  cases form with
  | none => exact ⟨.none, trivial, fun _ => rfl, fun _ _ _ same => same, by simp, by simp⟩
  | @list list listed =>
      have member := inside _ List.mem_cons_self
      have less := @size_lt _ _ kind role member
      obtain ⟨parameters, sound, lists⟩ := list_lays recognised listed
        (laid_withRole.1 (laid.below member)) (by simp at less; omega)
      exact lists.result sound
  | @type target form =>
      obtain ⟨type, sound, lays⟩ := recognised.inside laid within known
        (inside _ List.mem_cons_self) form
      have other := lays.kind_mem
      refine ⟨.lone type, sound, fun indent => ?_, fun indent tail tail' later => ?_, by simp, by simp⟩
      · rw [resultText, List.head?_cons, Option.map_some, Option.getD_some]
        cases target with
        | leaf kind role token =>
            simp [Result.trees, lays.text, resultOf, Layout.type]
        | node kind role children =>
            have other : kind ≠ .parameterList := by
              rintro rfl
              simp [Tree.kind, typeKinds] at other
            simp [Result.trees, lays.text, resultOf, other, ← @layout_withRole _ .result]
      · exact lays.settled " " later

end Results

/-! Fields. -/

/-- A literal settles as it does where it is laid out. -/
theorem Quote.settled_leaf (quote : Quote) (role : Role) (lead : List Gap) (space : String)
    (tail : List Tree) :
    settledAll (quote.tree role space :: tail) = settledAll (quote.leaf role lead :: tail) := by
  have firm (token : Token) : Firm (.leaf .rawStringLiteral role token)
      ∧ Firm (.leaf .interpretedStringLiteral role token) :=
    ⟨firm_leaf (by decide) (by decide), firm_leaf (by decide) (by decide)⟩
  unfold Quote.tree Quote.leaf
  split
  · rw [(firm _).1.settled, (firm _).1.settled]
    rfl
  · rw [(firm _).2.settled, (firm _).2.settled]
    rfl

@[simp] theorem Quote.text_leaf (quote : Quote) (role : Role) (lead : List Gap) :
    (quote.leaf role lead).text = quote.text := by
  unfold Quote.leaf
  split <;> simp

@[simp] theorem Quote.written_tree (quote : Quote) (role : Role) (space : String) :
    written (quote.tree role space) = space ++ quote.text := by
  unfold Quote.tree
  split <;> simp

@[simp] theorem Quote.role_leaf (quote : Quote) (role : Role) (lead : List Gap) :
    (quote.leaf role lead).role = role := by
  unfold Quote.leaf
  split <;> rfl

theorem Quote.sound_of_laid {quote : Quote} {role : Role} {lead : List Gap}
    (laid : Laid (quote.leaf role lead)) : quote.Sound := by
  refine Spelled.quote ?_
  have spelled := laid.spelled
  unfold Quote.leaf at spelled
  cases raw : quote.raw <;> simpa [raw] using spelled

/-- The tag of a field is laid out as it is. -/
theorem tag_lays {tag : List Tree} (tagged : IsTag tag) (laid : ∀ tree ∈ tag, Laid tree) :
    ∃ quote : Option Quote, (∀ quote' ∈ quote, quote'.Sound) ∧ (∀ tree ∈ tag, tree.role = .tag)
      ∧ writtenOf (tagTrees quote) = Layout.tagText tag
      ∧ settledAll (tagTrees quote) = settledAll tag := by
  rcases tagged with rfl | ⟨lead, quote, rfl⟩
  · exact ⟨none, by simp, by simp, rfl, rfl⟩
  · refine ⟨some quote, ?_, by simp, ?_, quote.settled_leaf _ _ _ _⟩
    · simpa using Quote.sound_of_laid (laid _ List.mem_cons_self)
    · simp [tagTrees, Layout.tagText]

structure FieldLays (names : List String) (type : Ty) (tag : Option Quote) (tree : Tree) : Prop where
  column : ∀ indent, (rowOf indent tree).names = ", ".intercalate names
  text : ∀ indent width,
    written (fieldTree (indent + 1) width names
      (fun space => type.tree .type space (indent + 1)) tag) =
        lineAt (indent + 1) ++ cell width (rowOf indent tree)
  same : ∀ indent width,
    settled (fieldTree indent width names (fun space => type.tree .type space indent) tag) =
      settled tree

inductive Fields.Lays : Fields → List Tree → Prop where
  | nil : Fields.Lays .nil []
  | cons {names type tag rest item items} (first : FieldLays names type tag item)
      (others : Fields.Lays rest items) : Fields.Lays (.cons names type tag rest) (item :: items)

section Fields

variable {bound : Nat} {tree target : Tree} {items : List Tree} {fields : Fields}

theorem intercalate_ne_empty {first : String} (texts : List String) (isName : IsName first) :
    ", ".intercalate (first :: texts) ≠ "" := by
  simp [intercalate_cons, isName_ne isName]

theorem name_lays (lead : List Gap) (text : String) :
    (Ty.name text).Lays (.leaf .typeIdentifier .plain ⟨lead, .word, text⟩) where
  text role space indent := by simp [Ty.tree, Layout.type]
  same role space indent := by simp [Ty.tree, Written.name, settled, Layout.unspacedToken]
  slim slim := by simp [Ty.isSlim] at slim

theorem qualified_lays (a b c : List Gap) (package text : String) :
    (Ty.qualified package text).Lays (qualifiedTree a b c package text) where
  text role space indent := by
    rw [qualifiedTree, Layout.type_qualified ⟨_, _, rfl, by decide⟩ ⟨_, rfl, rfl⟩
      ⟨_, _, rfl, by decide⟩]
    simp [Ty.tree, String.append_assoc]
  same role space indent := by
    have firm (role : Role) (token : Token) : Firm (.leaf .packageIdentifier role token)
        ∧ Firm (.leaf .typeIdentifier role token) :=
      ⟨firm_leaf (by decide) (by decide), firm_leaf (by decide) (by decide)⟩
    simp only [Ty.tree, qualifiedTree, Written.name, Grammar.withRole_node, settled]
    rw [(firm _ _).1.settled, (firm _ _).1.settled, settledAll_mark (by decide),
      settledAll_punct (by decide), (firm _ _).2.settled, (firm _ _).2.settled]
    rfl
  slim slim := by simp [Ty.isSlim] at slim

theorem embedded_lays (form : EmbeddedForm target) (known : target.kind ∈ typeContext) :
    ∃ type : Ty, type.Embeds ∧ type.Lays target := by
  cases form with
  | other foreign => exact absurd known foreign
  | name isName => exact ⟨.name _, isName, name_lays _ _⟩
  | qualified isPackage isName => exact ⟨.qualified _ _, ⟨isPackage, isName⟩, qualified_lays ..⟩

theorem field_lays (recognised : Recognised bound) (form : FieldForm tree) (laid : Laid tree)
    (within : size tree ≤ bound) :
    ∃ (names : List String) (type : Ty) (tag : Option Quote),
      (∀ rest : Fields, rest.Sound → (Fields.cons names type tag rest).Sound)
        ∧ FieldLays names type tag tree := by
  cases form with
  | @named first texts names target tag listed typed tagged =>
      obtain ⟨type, sound, lays⟩ := recognised.below laid within (by decide)
        (List.mem_append_right _ List.mem_cons_self) typed
      obtain ⟨quote, soundTag, roles, text, same⟩ := tag_lays tagged fun tree member =>
        laid.below (List.mem_append_right _ (List.mem_cons_of_mem _ member))
      have row (indent : Nat) := @Layout.rowOf_eq indent names .plain (target.withRole .type) tag
        (Layout.names_roles (listed.listed (by decide))) (by simp) roles
      simp only [listed.text_eq, layout_withRole] at row
      refine ⟨first :: texts, type, quote, fun rest soundRest => ⟨listed.all, sound, soundTag, soundRest⟩,
        fun indent => ?_, fun indent width => ?_, fun indent width => ?_⟩
      · rw [row]
      · rw [row, cell, if_neg (intercalate_ne_empty _ (listed.all _ List.mem_cons_self))]
        simp [fieldTree, written_nameTrees, lays.text, text, String.append_assoc]
      · simp only [fieldTree, settled]
        rw [(names_nameTrees _ listed.all).settled (by decide) (by decide),
          listed.settled (by decide) (by decide), lays.settled _ same]
  | @embedded target tag form tagged =>
      have known := laid.mem_context List.mem_cons_self (by decide : _ ⊆ typeContext) (by decide)
      obtain ⟨type, embeds, lays⟩ := embedded_lays form (by simpa using known)
      obtain ⟨quote, soundTag, roles, text, same⟩ := tag_lays tagged fun tree member =>
        laid.below (List.mem_cons_of_mem _ member)
      have row (indent : Nat) := @Layout.rowOf_eq indent [] .plain (target.withRole .type) tag (by simp)
        (by simp) roles
      simp only [List.nil_append, List.filter_nil, List.map_nil, layout_withRole] at row
      refine ⟨[], type, quote, fun rest soundRest => ⟨embeds, soundTag, soundRest⟩,
        fun indent => ?_, fun indent width => ?_, fun indent width => ?_⟩
      · rw [row]
      · simp [row, cell, fieldTree, lays.text, text, String.append_assoc]
      · simp only [fieldTree, settled]
        rw [lays.settled _ same]
  | pointed =>
      have spared := laid.isSpared
      simp [isSpared, isMarkIn] at spared

theorem fields_lay (recognised : Recognised bound) (forms : ∀ item ∈ items, FieldForm item)
    (laid : ∀ item ∈ items, Laid item) (within : ∀ item ∈ items, size item ≤ bound) :
    ∃ fields : Fields, fields.Sound ∧ fields.Lays items := by
  induction items with
  | nil => exact ⟨.nil, trivial, .nil⟩
  | cons item items ih =>
      simp only [List.forall_mem_cons] at forms laid within
      obtain ⟨rest, soundRest, others⟩ := ih forms.2 laid.2 within.2
      obtain ⟨names, type, tag, sound, first⟩ := field_lays recognised forms.1 laid.1 within.1
      exact ⟨.cons names type tag rest, sound rest soundRest, .cons first others⟩

theorem Fields.Lays.columns (lays : fields.Lays items) (indent : Nat) :
    fields.columns = (items.map (rowOf indent)).map (·.names) := by
  induction lays with
  | nil => rfl
  | cons first others ih => simp [Fields.columns, first.column, ih]

theorem Fields.Lays.width (lays : fields.Lays items) (indent : Nat) :
    fields.width = widthOf (items.map (rowOf indent)) := by
  rw [Fields.width, lays.columns indent, widthOf]

theorem Fields.Lays.written (lays : fields.Lays items) (indent width : Nat) :
    writtenOf (fields.trees (indent + 1) width) =
      String.join (items.map fun item => lineAt (indent + 1) ++ cell width (rowOf indent item)) := by
  induction lays with
  | nil => rfl
  | cons first others ih => simp [Fields.trees, first.text, ih]

theorem Fields.Lays.settled (lays : fields.Lays items) (indent width : Nat) (tail : List Tree) :
    settledAll (fields.trees indent width ++ tail) = items.map Preservation.settled ++ settledAll tail := by
  induction lays with
  | nil => rfl
  | @cons names type tag rest item items first others ih =>
      have firm : Firm (fieldTree indent width names (fun space => type.tree .type space indent) tag) :=
        ⟨rfl, by simp [fieldTree]⟩
      rw [Fields.trees, List.cons_append, firm.settled, first.same, ih]
      rfl

theorem join_shift (texts : List String) :
    "\n" ++ String.join (texts.map (· ++ "\n")) = String.join (texts.map ("\n" ++ ·)) ++ "\n" := by
  induction texts with
  | nil => rfl
  | cons text texts ih => simp [String.append_assoc, ih]

theorem Fields.Lays.isEmpty (lays : fields.Lays items) (indent width : Nat) :
    (fields.trees indent width).isEmpty = items.isEmpty := by
  cases lays <;> rfl

/-- The text of a struct, each field on a line of its own. -/
theorem Fields.Lays.struct (lays : fields.Lays items) (role : Role) (space : String) (indent : Nat) :
    Written.written ((Ty.struct fields).tree role space indent) =
      space ++ Layout.structText indent (items.map (rowOf indent)) := by
  rw [Ty.tree, structTree, lays.isEmpty]
  cases none : items.isEmpty with
  | true =>
      apply String.toList_injective
      simp [Layout.structText, none]
  | false =>
      -- the fields start with the ends of their lines here, and end with them in the layout
      have lines : String.join (items.map fun item =>
            lineAt (indent + 1) ++ cell fields.width (rowOf indent item)) ++ "\n" =
          "\n" ++ String.join ((items.map (rowOf indent)).map fun row =>
            Layout.tabs (indent + 1) ++ cell fields.width row ++ "\n") := by
        have shifted := join_shift (items.map fun item =>
          Layout.tabs (indent + 1) ++ cell fields.width (rowOf indent item))
        simp only [List.map_map, Function.comp_def] at shifted ⊢
        rw [shifted]
        simp [lineAt, String.append_assoc]
      rw [Layout.structText_eq _ (by simpa using none), ← lays.width indent,
        ← @String.append_assoc "\n", ← lines]
      apply String.toList_injective
      simp [lays.written, lineAt]

end Fields

/-! Types. -/

section Types

variable {bound : Nat} {trees : List Tree} {a b c : List Gap}

theorem struct_lays {held : List Tree} (recognised : Recognised bound)
    (listed : Given held (Types.terminated (.rule .field)) trees)
    (laid : Laid (.node .structType .plain
      [.leaf .mark .plain ⟨a, .word, "struct"⟩, .node .fieldDeclarationList .plain (braced b c trees)]))
    (within : size (.node .structType .plain
      [.leaf .mark .plain ⟨a, .word, "struct"⟩, .node .fieldDeclarationList .plain (braced b c trees)])
        ≤ bound) :
    ∃ type : Ty, type.Sound ∧ type.Lays (.node .structType .plain
      [.leaf .mark .plain ⟨a, .word, "struct"⟩,
       .node .fieldDeclarationList .plain (braced b c trees)]) := by
  obtain ⟨items, lined, all⟩ := given_terminated (by decide) listed
  have forms : ∀ item ∈ items, FieldForm item := fun item member => given_field (all item member)
  have inside : ∀ item ∈ items, item ∈ braced b c trees := fun item member => by
    simp [lined.subset item member]
  have listLaid := laid.below (List.mem_cons_of_mem _ List.mem_cons_self)
  obtain ⟨fields, sound, lays⟩ := fields_lay recognised forms
    (fun item member => listLaid.below (inside item member))
    (fun item member => by
      have := @size_lt _ _ .fieldDeclarationList .plain (inside item member)
      simp only [size, sizeAll] at within this
      omega)
  have rows (indent : Nat) :
      Layout.fieldRows indent (braced b c trees) = items.map (rowOf indent) := by
    have fieldItems : ∀ item ∈ items, isField item = true := fun item member => by
      cases forms item member <;> rfl
    have others : ∀ tree, isMarkIn [";", "\x00"] tree = true → isField tree = false := by
      intro tree ends
      cases tree with
      | leaf => rfl
      | node => simp [isMarkIn] at ends
    rw [Layout.fieldRows_eq]
    simp [lined.filter fieldItems others, isField]
  have firm : ∀ item ∈ items, Firm item := fun item member => by
    cases forms item member <;> exact ⟨rfl, by simp [Tree.kind]⟩
  refine ⟨.struct fields, sound, fun role space indent => ?_, fun role space indent => ?_,
    by simp [Ty.isSlim]⟩
  · rw [lays.struct, Layout.type_struct ⟨_, rfl, rfl⟩ ⟨_, rfl⟩, children_node, rows]
  · have list : settledAll (braced b c trees) =
        .leaf .mark .plain ⟨[], .mark, "\x7b"⟩ ::
          (items.map settled ++ [.leaf .mark .plain ⟨[], .mark, "\x7d"⟩]) := by
      rw [settledAll_punct (by decide), settledAll_lined lined firm, settledAll_punct (by decide),
        settledAll]
    have own (trees : List Tree) : Firm (.node .fieldDeclarationList .plain trees) :=
      ⟨rfl, by simp [Tree.kind]⟩
    simp only [Grammar.withRole_node, Ty.tree, structTree, settled]
    rw [settledAll_keyword (by decide), settledAll_punct (by decide), (own _).settled,
      (own _).settled, settled, settled, list, lays.isEmpty]
    cases none : items.isEmpty with
    | true =>
        obtain rfl : items = [] := by simpa using none
        rw [if_pos rfl, settledAll_mark (by decide), settledAll_mark (by decide)]
        rfl
    | false =>
        rw [if_neg (by simp), settledAll_mark (by decide), lays.settled, settledAll_mark (by decide)]
        rfl

/-- A type of a source that is laid out anew stands in no role of its own. -/
theorem TypeForm.withRole_plain {tree : Tree} (form : TypeForm tree) (known : tree.kind ∈ typeContext) :
    tree.withRole .plain = tree := by
  cases form with
  | other foreign => exact absurd known foreign
  | _ => rfl

theorem int_of_laid {length : Tree} (form : ExprForm length) (laid : Laid length)
    (known : length.kind ∈ constituents .arrayType) :
    ∃ lead text, length = .leaf .intLiteral .plain ⟨lead, .int, text⟩ ∧ Number.isInt text = true := by
  cases form with
  | other foreign =>
      exact absurd ((by decide : constituents .arrayType ⊆ expressionContext) known) foreign
  | unbuilt foreign => simp [laid.isBuilt] at foreign
  | @int lead text =>
      have spelled := laid.spelled ⟨lead, .int, text⟩ (by simp [Tree.tokens])
      exact ⟨lead, text, rfl, spelled⟩
  | @name kind lead text same =>
      have word : operandKind text ∉ constituents .arrayType := by
        unfold operandKind
        repeat' split
        all_goals decide
      exact absurd (same ▸ known) word
  | paren | selector | call | emptyAllocation | allocation =>
      simp [Tree.kind, constituents, typeKinds] at known

theorem function_lays {lead : List Gap} {held : List Tree} (recognised : Recognised bound)
    (signed : Given held Types.signature trees)
    (laid : Laid (.node .functionType .plain (.leaf .mark .plain ⟨lead, .word, "func"⟩ :: trees)))
    (within : size (.node .functionType .plain
      (.leaf .mark .plain ⟨lead, .word, "func"⟩ :: trees)) ≤ bound) :
    ∃ type : Ty, type.Sound
      ∧ type.Lays (.node .functionType .plain (.leaf .mark .plain ⟨lead, .word, "func"⟩ :: trees)) := by
  obtain ⟨list, results, rfl, listed, form⟩ := given_signature signed
  have member : list.withRole .parameters ∈
      Syntax.Tree.leaf .mark .plain ⟨lead, .word, "func"⟩ :: list.withRole .parameters :: results := by
    simp
  have less := @size_lt _ _ .functionType .plain member
  obtain ⟨parameters, sound, lists⟩ := list_lays recognised listed (laid_withRole.1 (laid.below member))
    (by simp at less; omega)
  obtain ⟨result, soundResult, lays⟩ := result_lays recognised form laid within (by decide)
    fun tree member => List.mem_cons_of_mem _ (List.mem_cons_of_mem _ member)
  refine ⟨.function parameters result, ⟨sound, soundResult⟩, fun role space indent => ?_,
    fun role space indent => ?_, fun slim => ?_⟩
  · rw [Layout.type_function ⟨_, rfl, rfl⟩ (by simp) lays.roles, children_withRole, ← lists.text]
    simp [Ty.tree, listTree, lays.text, String.append_assoc]
  · have firm (tree : Tree) (other : tree.role = .parameters) (named : tree.isNamed = true) : Firm tree :=
      ⟨named, by simp [other]⟩
    have named : list.isNamed = true := named_of_given (by decide) listed
    simp only [Grammar.withRole_node, Ty.tree, settled]
    rw [settledAll_keyword (by decide), settledAll_punct (by decide),
      (firm _ rfl rfl).settled, (firm (list.withRole .parameters) (by simp) (by simpa)).settled,
      lists.same]
    simpa using lays.same indent [] [] rfl
  · -- the source may have parentheses for no results, and these are not laid out
    obtain ⟨type, rfl, rfl⟩ : ∃ type, parameters = .cons ⟨false, []⟩ type .nil ∧ result = .none := by
      unfold Ty.isSlim at slim
      split at slim
      · rename_i type same
        exact ⟨type, (Ty.function.inj same).1, (Ty.function.inj same).2⟩
      · simp at slim
    have alone := lists.items.alone
    have empty : ∀ tree ∈ results.find? fun tree => tree.role = .result,
        tree.kind = .parameterList ∧ parameterTrees tree.children = [] := fun tree found =>
      lays.none rfl tree (List.mem_of_find?_eq_some found)
    cases found : results.find? fun tree => tree.role = .result <;>
      simp [isSlim, Tree.child?, found, alone, empty]

section Inside

variable {type : Ty} {target : Tree}

theorem pointer_lays (lays : type.Lays target) (same : target.withRole .plain = target)
    (plain : ∀ tree ∈ [Syntax.Tree.leaf .mark .plain ⟨a, .mark, "*"⟩, target], Layout.Plain tree) :
    (Ty.pointer type).Lays
      (.node .pointerType .plain [.leaf .mark .plain ⟨a, .mark, "*"⟩, target]) where
  text role space indent := by
    rw [Layout.type_pointer ⟨_, rfl, rfl⟩ (firm_of_kind lays.kind_mem).named plain]
    simp [Ty.tree, lays.text, String.append_assoc]
  same role space indent := by
    simp only [Grammar.withRole_node, Ty.tree, settled]
    rw [settledAll_mark (by decide), settledAll_punct (by decide), lays.settled "" rfl, same]
  slim := by simp [Ty.isSlim]

theorem slice_lays (lays : type.Lays target) :
    (Ty.slice type).Lays (.node .sliceType .plain
      [.leaf .mark .plain ⟨a, .mark, "["⟩, .leaf .mark .plain ⟨b, .mark, "]"⟩,
       target.withRole .element]) where
  text role space indent := by
    rw [Layout.type_slice ⟨_, rfl, rfl⟩ ⟨_, rfl, rfl⟩ (by simp), layout_withRole]
    simp [Ty.tree, lays.text, String.append_assoc]
  same role space indent := by
    simp only [Grammar.withRole_node, Ty.tree, settled]
    rw [settledAll_mark (by decide), settledAll_punct (by decide), settledAll_mark (by decide),
      settledAll_punct (by decide), lays.settled "" rfl]
  slim := by simp [Ty.isSlim]

theorem array_lays (lays : type.Lays target) (length : String) :
    (Ty.array length type).Lays (.node .arrayType .plain
      [.leaf .mark .plain ⟨a, .mark, "["⟩, .leaf .intLiteral .length ⟨b, .int, length⟩,
       .leaf .mark .plain ⟨c, .mark, "]"⟩, target.withRole .element]) where
  text role space indent := by
    rw [Layout.type_array ⟨_, rfl, rfl⟩ (by simp) ⟨_, rfl, rfl⟩ (by simp), layout_withRole]
    simp [Ty.tree, lays.text, String.append_assoc, Layout.expression]
  same role space indent := by
    have firm (token : Token) : Firm (.leaf .intLiteral .length token) :=
      firm_leaf (by decide) (by decide)
    simp only [Grammar.withRole_node, Ty.tree, settled]
    rw [settledAll_mark (by decide), settledAll_punct (by decide), (firm _).settled,
      (firm _).settled, settledAll_mark (by decide), settledAll_punct (by decide),
      lays.settled "" rfl]
    rfl
  slim := by simp [Ty.isSlim]

end Inside

/-- Every type is recognised. -/
theorem recognised (bound : Nat) : Recognised bound := by
  -- by size, since a type is found in a role that it does not have by itself
  induction bound with
  | zero => exact fun tree less => absurd less (by omega)
  | succ bound recognised =>
      intro tree less form known laid
      have within : size tree ≤ bound := by omega
      cases form with
      | other foreign => exact absurd known foreign
      | name isName free => exact ⟨.name _, ⟨isName, free⟩, name_lays _ _⟩
      | qualified isPackage free isName =>
          exact ⟨.qualified _ _, ⟨isPackage, free, isName⟩, qualified_lays ..⟩
      | @pointer a target typed =>
          have form := given_type typed
          have member : target ∈ [Syntax.Tree.leaf .mark .plain ⟨a, .mark, "*"⟩, target] := by simp
          have same : target.withRole .plain = target :=
            form.withRole_plain (laid.mem_context member (by decide) (by decide))
          obtain ⟨type, sound, lays⟩ := recognised.inside laid within (by decide)
            (by rwa [same]) form
          exact ⟨.pointer type, sound, pointer_lays lays same laid.plains⟩
      | slice typed =>
          obtain ⟨type, sound, lays⟩ := recognised.below laid within (by decide)
            (List.mem_cons_of_mem _ (List.mem_cons_of_mem _ List.mem_cons_self)) typed
          exact ⟨.slice type, sound, slice_lays lays⟩
      | @array a b length element sized typed =>
          have member : length.withRole .length ∈
              [Syntax.Tree.leaf .mark .plain ⟨a, .mark, "["⟩, length.withRole .length,
               .leaf .mark .plain ⟨b, .mark, "]"⟩, element.withRole .element] := by
            simp
          obtain ⟨type, sound, lays⟩ := recognised.below laid within (by decide)
            (List.mem_cons_of_mem _ (List.mem_cons_of_mem _ (List.mem_cons_of_mem _
              List.mem_cons_self))) typed
          have named : length.isNamed = true := named_of_given (by decide) sized
          obtain ⟨lead, text, rfl, isInt⟩ := int_of_laid (given_expression sized)
            (laid_withRole.1 (laid.below member))
            (by simpa using laid.mem_constituents member (by simpa))
          exact ⟨.array text type, ⟨isInt, sound⟩, array_lays lays text⟩
      | function signed => exact function_lays recognised signed laid within
      | struct listed => exact struct_lays recognised listed laid within

end Types

end InterfaceMocks.Preservation
