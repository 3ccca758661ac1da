import InterfaceMocks.Proofs.Layout.Parameters

/-!
The fields of a struct are made of the tokens of their trees, and so is every type. By induction over
the tree, so is every expression and every type at any depth.
-/

namespace InterfaceMocks.Layout

open InterfaceMocks.Syntax InterfaceMocks.Grammar InterfaceMocks.Text

/-! Fields. -/

section Fields

variable {indent : Nat} {names names' rest rest' : List Tree} {role : Role}

def cell (width : Nat) (row : FieldRow) : String :=
  if row.names = "" then row.type
  else row.names ++ (spaces (width - row.names.length) ++ " " ++ row.type)

theorem line_eq (width : Nat) (row : FieldRow) :
    row.line indent width = tabs (indent + 1) ++ cell width row ++ "\n" := by
  rw [FieldRow.line, cell]
  split <;> simp only [String.append_assoc]

theorem white_tabs (count : Nat) : White (tabs count).toList := by
  rw [tabs, String.toList_ofList]
  exact white_replicate (by decide) count

theorem white_spaces (count : Nat) : White (spaces count ++ " ").toList := by
  rw [spaces, String.toList_append, String.toList_ofList, white_append]
  exact ⟨white_replicate (by decide) count, by decide⟩

def tagText (tags : List Tree) : String := (tags.head?.map fun tag => " " ++ tag.text).getD ""

variable {target target' : Tree} {tag tag' : List Tree}

theorem relaid_tag (tagged : AtMostOne (IsLeaf .tag) tag) (twins : TwinLists tag tag') :
    Relaid tag tag' (tagText tag) (tagText tag') := by
  rcases tagged with rfl | ⟨tree, rfl, leaf⟩
  · cases twins
    exact .nil
  · obtain _ | ⟨here, _ | _⟩ := twins
    obtain ⟨tokens, prints⟩ := leaf_prints leaf here
    exact .space " " (by decide) (prints.some tokens) prints.relaid

/-- Where the names, the type and the tag of a field are found. -/
theorem rowOf_eq (front : ∀ tree ∈ names, tree.role = .name ∨ tree.role = .plain)
    (typed : target.role = .type) (tagged : ∀ tree ∈ tag, tree.role = .tag) :
    rowOf indent (.node .fieldDeclaration role (names ++ target :: tag)) =
      ⟨", ".intercalate ((names.filter isName).map Tree.text),
        type (indent + 1) target ++ tagText tag⟩ := by
  have others : ∀ tree ∈ target :: tag, tree.role ≠ .name := by
    intro tree member
    rcases List.mem_cons.1 member with rfl | member
    · simp [typed]
    · simp [tagged tree member]
  have found : (names ++ target :: tag).find? (fun tree => tree.role = .tag) = tag.head? := by
    have none : names.find? (fun tree => tree.role = .tag) = none :=
      find_none fun tree member => by rcases front tree member with role | role <;> simp [role]
    simp [List.find?_append, none, typed, find_role tagged]
  rw [rowOf, Written.children_node, nameList_append others, typeAt_append _ front, Tree.textAt, found,
    Option.map_map]
  simp [typeAt, typed, tagText, Function.comp_def]

theorem twins_names (listed : Listed (IsLeaf .name) names) (twins : TwinLists names names') :
    (names'.filter isName).map Tree.text = (names.filter isName).map Tree.text := by
  rcases listed with rfl | separated
  · cases twins
    rfl
  · induction separated generalizing names' with
    | one leaf =>
        obtain _ | ⟨here, _ | _⟩ := twins
        have leaf' := here.isLeaf leaf
        simp [isName_leaf leaf, isName_leaf leaf'.1, leaf'.2]
    | more leaf mark _ ih =>
        obtain _ | ⟨here, _ | ⟨comma, later⟩⟩ := twins
        have leaf' := here.isLeaf leaf
        simp [isName_leaf leaf, isName_leaf leaf'.1, leaf'.2, isName_mark mark,
          isName_mark (comma.isMark mark), ih later]

theorem relaid_typeAndTag (indent : Nat) (throughout : Throughout target) (typed : Fills .type target)
    (tagged : AtMostOne (IsLeaf .tag) tag) (twins : TwinLists (target :: tag) rest') :
    ∃ target' tag', rest' = target' :: tag' ∧ target'.role = .type ∧ (∀ tree ∈ tag', tree.role = .tag)
      ∧ type (indent + 1) target ++ tagText tag ≠ ""
      ∧ Relaid (target :: tag) rest' (type (indent + 1) target ++ tagText tag)
          (type (indent + 1) target' ++ tagText tag') := by
  obtain _ | ⟨here, later⟩ := twins
  have prints := throughout.good.type (indent + 1) here
  have roles : ∀ tree ∈ tag, tree.role = .tag := by
    rcases tagged with rfl | ⟨tree, rfl, kind, token, rfl, -⟩ <;> simp
  exact ⟨_, _, rfl, here.role_eq.trans typed.role, twins_roles later roles,
    by simp [prints.some typed.solid.tokens], prints.before (relaid_tag tagged later)⟩

/-- A field is made of its tokens, and has the same names in both trees. -/
theorem field_prints (indent width : Nat) {tree tree' : Tree}
    (isField : IsNode .fieldDeclaration role tree)
    (throughout : Throughout tree) (twins : Twins tree tree') :
    (rowOf indent tree').names = (rowOf indent tree).names
      ∧ Prints tree tree' (cell width (rowOf indent tree)) (cell width (rowOf indent tree')) := by
  obtain ⟨children, rfl⟩ := isField
  have formed := twins.shape (by decide)
  obtain ⟨children', rfl, each⟩ := twins.node
  have tagRole {tag : List Tree} (tagged : AtMostOne (IsLeaf .tag) tag) :
      ∀ tree ∈ tag, tree.role = .tag := by
    rcases tagged with rfl | ⟨tree, rfl, kind, token, rfl, -⟩ <;> simp
  cases formed with
  | @namedField names target tag named typed tagged =>
      obtain ⟨names', last', rfl, twinNames, last⟩ := twins_append each
      obtain ⟨target', tag', rfl, typed', tagged', some, after⟩ :=
        relaid_typeAndTag indent (throughout.children target (by simp)) typed tagged last
      obtain ⟨relaid, nonempty, -⟩ := relaid_separated named twinNames
        (fun tree tree' _ leaf twin => by
          obtain ⟨tokens, prints⟩ := leaf_prints leaf twin
          exact ⟨isName_leaf leaf, isName_leaf (twin.isLeaf leaf).1, tokens, prints⟩)
        fun text tree => isName_mark
      -- the names are the same in both trees, so they take up as much of the column
      have same := twins_names (.inr named) twinNames
      rw [rowOf_eq (names_roles (.inr named)) typed.role (tagRole tagged),
        rowOf_eq (names_roles (twins_listed (.inr named) twinNames)) typed' tagged']
      refine ⟨by simp only [same], .node ?_ ?_⟩
      · have spaced := relaid.append (.space _ (white_spaces
          (width - (", ".intercalate ((names.filter isName).map Tree.text)).length)) some after)
        rw [same] at spaced
        simpa [cell, same, nonempty] using spaced
      · simp [cell, nonempty]
  -- the star of an embedded field is not printed
  | @embeddedField star target tag pointed typed tagged =>
      obtain ⟨star', last', rfl, twinStar, last⟩ := twins_append each
      obtain ⟨target', tag', rfl, typed', tagged', some, after⟩ :=
        relaid_typeAndTag indent (throughout.children target (by simp)) typed tagged last
      have plain : ∀ tree ∈ star, tree.role = .plain := by
        rcases pointed with rfl | ⟨tree, rfl, mark⟩
        · simp
        · simpa using role_mark mark
      have plain' := twins_roles twinStar plain
      have none : star.filter isName = [] :=
        filter_none fun tree member => by simp [plain tree member]
      have none' : star'.filter isName = [] :=
        filter_none fun tree member => by simp [plain' tree member]
      rw [rowOf_eq (fun tree member => .inr (plain tree member)) typed.role (tagRole tagged),
        rowOf_eq (fun tree member => .inr (plain' tree member)) typed' tagged', none, none']
      refine ⟨rfl, .node ?_ ?_⟩
      · simpa [cell] using Relaid.dropAll twinStar after
      · simpa [cell] using some

theorem isNode_of_isField {tree : Tree} (isField : isField tree = true) :
    ∃ role, IsNode .fieldDeclaration role tree := by
  cases tree with
  | leaf => simp [Layout.isField] at isField
  | node kind role children =>
      obtain rfl : kind = .fieldDeclaration := by simpa [Layout.isField] using isField
      exact ⟨role, children, rfl⟩

theorem twins_isField {tree tree' : Tree} (twins : Twins tree tree') :
    isField tree' = isField tree := by
  cases tree with
  | leaf => obtain ⟨token', rfl, -⟩ := twins.leaf; rfl
  | node => obtain ⟨children', rfl, -⟩ := twins.node; rfl

theorem twins_fieldNames (indent : Nat) {trees trees' : List Tree}
    (below : ∀ child ∈ trees, Throughout child) (twins : TwinLists trees trees') :
    (fieldRows indent trees').map (·.names) = (fieldRows indent trees).map (·.names) := by
  induction twins with
  | nil => rfl
  | @cons tree tree' _ _ here _ ih =>
      have later := ih fun child member => below child (List.mem_cons_of_mem _ member)
      simp only [fieldRows_eq, List.map_map] at later ⊢
      cases field : isField tree with
      | false => simpa [field, twins_isField here] using later
      | true =>
          obtain ⟨role, isNode⟩ := isNode_of_isField field
          have own := (field_prints indent 0 isNode (below tree (by simp)) here).1
          simpa [field, twins_isField here, own] using later

def widthOf (rows : List FieldRow) : Nat := ((rows.map (·.names)).map String.length).foldl max 0

theorem structText_eq (rows : List FieldRow) (some : rows.isEmpty = false) :
    structText indent rows =
      "struct" ++ (" " ++ ("\x7b" ++ ("\n"
        ++ (String.join (rows.map fun row => tabs (indent + 1) ++ cell (widthOf rows) row ++ "\n")
          ++ (tabs indent ++ "\x7d"))))) := by
  have width : (rows.map fun row => row.names.length).foldl max 0 = widthOf rows := by
    rw [widthOf, List.map_map]
    rfl
  have lines : (rows.map fun row => tabs (indent + 1) ++ cell (widthOf rows) row ++ "\n") =
      rows.map (FieldRow.line indent (widthOf rows)) :=
    List.map_congr_left fun row _ => (line_eq _ row).symm
  have opening : "struct \x7b\n" = "struct" ++ (" " ++ ("\x7b" ++ "\n")) := by decide
  rw [structText, some, lines, width, opening]
  simp only [Bool.false_eq_true, if_false, String.append_assoc]

/-- A struct is made of its tokens. -/
theorem relaid_struct {word fields word' fields' : Tree} (opens : IsMark "struct" word)
    (listed : IsNode .fieldDeclarationList .plain fields) (throughout : Throughout fields)
    (first : Twins word word') (twins : Twins fields fields') (indent : Nat) :
    Relaid [word, fields] [word', fields'] (structText indent (fieldRows indent fields.children))
      (structText indent (fieldRows indent fields'.children)) := by
  obtain ⟨children, rfl⟩ := listed
  have formed := twins.shape (by decide)
  obtain ⟨children', rfl, each⟩ := twins.node
  have names := twins_fieldNames indent throughout.children each
  -- the types stand in the same column in both trees
  have widths : widthOf (fieldRows indent children') = widthOf (fieldRows indent children) := by
    rw [widthOf, widthOf, names]
  have empties : (fieldRows indent children').isEmpty = (fieldRows indent children).isEmpty := by
    rw [← List.isEmpty_map (f := (·.names)), names, List.isEmpty_map]
  simp only [Written.children_node]
  cases formed with
  | @fieldList left middle right mark items closes =>
      cases none : (fieldRows indent (left :: (middle ++ [right]))).isEmpty with
      | true =>
          simp only [structText, empties, none, if_true]
          exact Relaid.mark opens first (relaid_brackets mark closes each).within
      | false =>
          rw [structText_eq _ none, structText_eq _ (empties.trans none), widths]
          generalize widthOf (fieldRows indent (left :: (middle ++ [right]))) = width
          rw [fieldRows_eq, fieldRows_eq, List.map_map, List.map_map]
          have fields := relaid_block (f := fun tree => cell width (rowOf indent tree)) _ _
            (white_tabs (indent + 1)) (white_tabs indent) mark closes each
            (fun tree tree' member twins => ⟨twins_isField twins, fun field => by
              obtain ⟨role, isNode⟩ := isNode_of_isField field
              have deep := throughout.children tree (by simp [member])
              exact (field_prints indent width isNode deep twins).2.relaid⟩)
            (fun text tree mark => by obtain ⟨token, rfl, -⟩ := mark; rfl) (by simp)
          exact Relaid.mark opens first (.space " " (by decide) (by simp) fields.within)

end Fields

/-! Types. -/

section Types

variable {indent : Nat} {role : Role} {children children' : List Tree}

def typeKinds : List Kind :=
  [.qualifiedType, .pointerType, .sliceType, .arrayType, .functionType, .structType, .interfaceType,
    .parenthesizedType]

theorem type_of_kept {kind : Kind} (other : kind ∉ typeKinds) :
    type indent (.node kind role children) = collapsed (.node kind role children) := by
  simp only [typeKinds, List.mem_cons, List.not_mem_nil, or_false, not_or] at other
  obtain ⟨one, two, three, four, five, six, seven, eight⟩ := other
  rw [type] <;> assumption

section Equations

variable {left right : Tree}

theorem type_qualified {package dot name : Tree} (packaged : IsLeaf .package package)
    (mark : IsMark "." dot) (named : IsLeaf .name name) :
    type indent (.node .qualifiedType role [package, dot, name]) =
      package.text ++ ("." ++ name.text) := by
  obtain ⟨kind, token, rfl, -⟩ := packaged
  obtain ⟨dot, rfl, -⟩ := mark
  obtain ⟨kind, token, rfl, -⟩ := named
  simp [type, Tree.textAt, String.append_assoc]

theorem type_pointer {star target : Tree} (mark : IsMark "*" star) (named : target.isNamed = true)
    (plain : ∀ tree ∈ [star, target], Plain tree) :
    type indent (.node .pointerType role [star, target]) = "*" ++ type indent target := by
  simp [type, firstType_plain plain, solid_mark mark, named]

theorem type_slice {element : Tree} (opens : IsMark "[" left) (closes : IsMark "]" right)
    (typed : element.role = .element) :
    type indent (.node .sliceType role [left, right, element]) =
      "[" ++ ("]" ++ type indent element) := by
  simp [type, typeAt, role_mark opens, role_mark closes, typed, ← String.append_assoc]

theorem type_array {length element : Tree} (opens : IsMark "[" left) (sized : length.role = .length)
    (closes : IsMark "]" right) (typed : element.role = .element) :
    type indent (.node .arrayType role [left, length, right, element]) =
      "[" ++ (expression length ++ ("]" ++ type indent element)) := by
  simp [type, typeAt, expressionAt, role_mark opens, role_mark closes, sized, typed,
    String.append_assoc]

theorem type_function {word parameters : Tree} {results : List Tree} (opens : IsMark "func" word)
    (listed : parameters.role = .parameters) (result : ∀ tree ∈ results, tree.role = .result) :
    type indent (.node .functionType role (word :: parameters :: results)) =
      "func" ++ ("(" ++ (", ".intercalate (parameterTexts indent parameters.children) ++ ")")
        ++ resultText indent results) := by
  simp [type, signatureText, parametersAt_eq, resultAt_eq, role_mark opens, listed, find_role result,
    resultText, String.append_assoc]

theorem type_struct {word fields : Tree} (opens : IsMark "struct" word)
    (listed : IsNode .fieldDeclarationList .plain fields) :
    type indent (.node .structType role [word, fields]) =
      structText indent (fieldRows indent fields.children) := by
  obtain ⟨token, rfl, -⟩ := opens
  obtain ⟨children, rfl⟩ := listed
  simp [type, fieldsAt]

theorem type_parenthesized {target : Tree} (mark : IsMark "(" left) (named : target.isNamed = true)
    (plain : ∀ tree ∈ [left, target, right], Plain tree) :
    type indent (.node .parenthesizedType role [left, target, right]) =
      "(" ++ (type indent target ++ ")") := by
  simp [type, firstType_plain plain, solid_mark mark, named, String.append_assoc]

end Equations

/-- A type that is laid out anew or kept is made of its tokens. -/
theorem type_prints {kind : Kind} {tree' : Tree} (below : ∀ child ∈ children, Throughout child)
    (indent : Nat) (twins : Twins (.node kind role children) tree') :
    Prints (.node kind role children) tree' (type indent (.node kind role children))
      (type indent tree') := by
  have kept := twins.kept
  by_cases laid : kind ∈ typeKinds
  · have formed := twins.shape ((by decide : typeKinds ⊆ laidKinds) laid)
    obtain ⟨children', rfl, each⟩ := twins.node
    obtain ⟨plain, plain'⟩ := twins_plain each
    cases formed with
    | qualifiedType packaged mark named =>
        obtain _ | ⟨twinPackage, _ | ⟨twinDot, _ | ⟨twinName, _ | _⟩⟩⟩ := each
        rw [type_qualified packaged mark named, type_qualified (twinPackage.isLeaf packaged).1
          (twinDot.isMark mark) (twinName.isLeaf named).1]
        refine .node ?_ (by simp)
        have rest := Relaid.mark mark twinDot (Relaid.leaf named twinName .nil)
        simpa using Relaid.leaf packaged twinPackage rest
    | @pointerType star target opens typed =>
        obtain _ | ⟨twinStar, _ | ⟨twinTarget, _ | _⟩⟩ := each
        rw [type_pointer opens typed.named plain, type_pointer (twinStar.isMark opens)
          (twinTarget.isNamed_eq.trans typed.named) plain']
        have prints := (below target (by simp)).good.type indent twinTarget
        exact .node (Relaid.mark opens twinStar prints.relaid) (by simp)
    | @sliceType left right element opens closes typed =>
        obtain _ | ⟨twinLeft, _ | ⟨twinRight, _ | ⟨twinElement, _ | _⟩⟩⟩ := each
        rw [type_slice opens closes typed.role, type_slice (twinLeft.isMark opens)
          (twinRight.isMark closes) (twinElement.role_eq.trans typed.role)]
        have prints := (below element (by simp)).good.type indent twinElement
        exact .node (Relaid.mark opens twinLeft (Relaid.mark closes twinRight prints.relaid)) (by simp)
    | @arrayType left length right element opens sized closes typed =>
        obtain _ | ⟨twinLeft, _ | ⟨twinLength, _ | ⟨twinRight, _ | ⟨twinElement, _ | _⟩⟩⟩⟩ := each
        rw [type_array opens sized.role closes typed.role, type_array (twinLeft.isMark opens)
          (twinLength.role_eq.trans sized.role) (twinRight.isMark closes)
          (twinElement.role_eq.trans typed.role)]
        have size := (below length (by simp)).good.expression twinLength
        have prints := (below element (by simp)).good.type indent twinElement
        have rest := Relaid.mark closes twinRight prints.relaid
        exact .node (Relaid.mark opens twinLeft (size.before rest)) (by simp)
    | functionType opens listed result =>
        obtain _ | ⟨twinWord, _ | ⟨twinParameters, twinResults⟩⟩ := each
        have roles := result_roles result
        rw [type_function opens listed.role roles, type_function (twinWord.isMark opens)
          (twinParameters.role_eq.trans listed.role) (twins_roles twinResults roles)]
        have relaid := relaid_signature indent listed result
          (fun child member => below child (List.mem_cons_of_mem _ member))
          (.cons twinParameters twinResults)
        exact .node (Relaid.mark opens twinWord relaid) (by simp)
    | @structType word fields opens listed =>
        obtain _ | ⟨twinWord, _ | ⟨twinFields, _ | _⟩⟩ := each
        rw [type_struct opens listed, type_struct (twinWord.isMark opens) (twinFields.isNode listed)]
        have relaid := relaid_struct opens listed (below fields (by simp)) twinWord twinFields indent
        refine .node relaid ?_
        rw [structText]
        split <;> simp
    | interfaceType opens mark closes =>
        have empties := twins_isEmpty Twins.isNamed_eq each
        simp only [type, itemsOf_plain plain, itemsOf_plain plain', List.isEmpty_map, empties]
        split
        · obtain _ | ⟨twinWord, _ | ⟨twinLeft, inner⟩⟩ := each
          obtain ⟨middle', last', rfl, inside, last⟩ := twins_append inner
          obtain _ | ⟨twinRight, _ | _⟩ := last
          have closing := Relaid.dropAll inside (Relaid.mark closes twinRight .nil)
          exact .node (Relaid.mark opens twinWord (Relaid.mark mark twinLeft closing)) (by simp)
        · exact kept
    | @parenthesizedType left target right opens typed closes =>
        obtain _ | ⟨twinLeft, _ | ⟨twinTarget, _ | ⟨twinRight, _ | _⟩⟩⟩ := each
        rw [type_parenthesized opens typed.named plain, type_parenthesized (twinLeft.isMark opens)
          (twinTarget.isNamed_eq.trans typed.named) plain']
        have prints := (below target (by simp)).good.type indent twinTarget
        have rest := Relaid.mark closes twinRight .nil
        exact .node (by simpa using Relaid.mark opens twinLeft (prints.before rest)) (by simp)
    | _ => simp [typeKinds] at laid
  · obtain ⟨children', rfl, -⟩ := twins.node
    rw [type_of_kept laid, type_of_kept laid]
    exact kept

end Types

/-- The text of a leaf is that of its token. -/
theorem good_leaf {kind : Kind} {role : Role} {token : Token} : Good (.leaf kind role token) := by
  have prints {tree' : Tree} (twins : Twins (.leaf kind role token) tree') :
      ∃ token', tree' = .leaf kind role token'
        ∧ Prints (.leaf kind role token) tree' token.text token'.text := by
    obtain ⟨token', rfl, same⟩ := twins.leaf
    refine ⟨token', rfl, by simpa using Relaid.word same .nil, fun _ none => ?_⟩
    have opens := (twins.cut token (by simp)).opens.ink_pos
    simp [none] at opens
  constructor
  · intro tree' twins
    obtain ⟨token', rfl, prints⟩ := prints twins
    simpa [expression] using prints
  · intro tree' indent twins
    obtain ⟨token', rfl, prints⟩ := prints twins
    simpa [type] using prints

mutual

/-- Expressions and types are made of their tokens, at any depth. -/
theorem throughout (tree : Tree) : Throughout tree := by
  cases tree with
  | leaf => exact .leaf good_leaf
  | node kind role children =>
      have below := throughout_all children
      exact .node ⟨expression_prints below, type_prints below⟩ below

theorem throughout_all (trees : List Tree) : ∀ tree ∈ trees, Throughout tree := by
  cases trees with
  | nil => simp
  | cons first rest =>
      have here := throughout first
      have later := throughout_all rest
      intro tree member
      rcases List.mem_cons.1 member with rfl | member
      · exact here
      · exact later tree member

end

end InterfaceMocks.Layout
