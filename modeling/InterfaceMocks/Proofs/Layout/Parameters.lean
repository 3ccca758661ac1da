import InterfaceMocks.Proofs.Layout.Expressions

/-!
Parameters and results are made of the tokens of their trees; the parentheses around a lone result
are left out.
-/

namespace InterfaceMocks.Layout

open InterfaceMocks.Syntax InterfaceMocks.Grammar InterfaceMocks.Text

/-! Names. -/

section Names

variable {names names' rest rest' : List Tree} {y y' : String}

def isName (tree : Tree) : Bool := tree.role = .name

theorem isName_mark {text : String} {tree : Tree} (mark : IsMark text tree) : isName tree = false := by
  obtain ⟨token, rfl, -⟩ := mark
  rfl

theorem isName_leaf {tree : Tree} (leaf : IsLeaf .name tree) : isName tree = true := by
  obtain ⟨kind, token, rfl, -⟩ := leaf
  rfl

theorem role_mark {text : String} {tree : Tree} (mark : IsMark text tree) : tree.role = .plain := by
  obtain ⟨token, rfl, -⟩ := mark
  rfl

theorem leaf_prints {role : Role} {tree tree' : Tree} (leaf : IsLeaf role tree)
    (twins : Twins tree tree') : tree.tokens ≠ [] ∧ Prints tree tree' tree.text tree'.text := by
  obtain ⟨kind, token, rfl, named⟩ := leaf
  refine ⟨by simp, by simpa using Relaid.leaf ⟨kind, token, rfl, named⟩ twins .nil, fun some => ?_⟩
  intro none
  have opens := (twins.cut token (by simp)).opens.ink_pos
  rw [Written.text_leaf] at none
  simp [none] at opens

/-- Names with commas between them, and then the rest after a space. -/
theorem relaid_names (listed : Listed (IsLeaf .name) names) (twins : TwinLists names names')
    (space : String) (white : White space.toList) (some : y ≠ "") (after : Relaid rest rest' y y') :
    Relaid (names ++ rest) (names' ++ rest')
      (if (names.filter isName).isEmpty then y
        else ", ".intercalate ((names.filter isName).map Tree.text) ++ (space ++ y))
      (if (names'.filter isName).isEmpty then y'
        else ", ".intercalate ((names'.filter isName).map Tree.text) ++ (space ++ y')) := by
  rcases listed with rfl | separated
  · cases twins
    simpa using after
  · obtain ⟨relaid, -, listed, listed'⟩ := relaid_separated separated twins
      (fun tree tree' _ leaf twin => by
        obtain ⟨tokens, prints⟩ := leaf_prints leaf twin
        obtain ⟨kind, token, rfl, -⟩ := leaf
        obtain ⟨token', rfl, -⟩ := twin.leaf
        exact ⟨rfl, rfl, tokens, prints⟩) fun text tree => isName_mark
    rw [if_neg (by simpa using listed), if_neg (by simpa using listed')]
    exact relaid.append (.space space white some after)

theorem names_roles (listed : Listed (IsLeaf .name) names) :
    ∀ tree ∈ names, tree.role = .name ∨ tree.role = .plain := by
  rcases listed with rfl | separated
  · simp
  · induction separated with
    | one leaf =>
        obtain ⟨kind, token, rfl, -⟩ := leaf
        simp
    | more leaf mark _ ih =>
        obtain ⟨kind, token, rfl, -⟩ := leaf
        obtain ⟨comma, rfl, -⟩ := mark
        simpa using ih

theorem listed_of_atMostOne (named : AtMostOne (IsLeaf .name) names) :
    Listed (IsLeaf .name) names := by
  rcases named with rfl | ⟨tree, rfl, leaf⟩
  · exact .inl rfl
  · exact .inr (.one leaf)

theorem find_none {role : Role} {trees : List Tree} (others : ∀ tree ∈ trees, tree.role ≠ role) :
    trees.find? (fun tree => tree.role = role) = none :=
  List.find?_eq_none.2 fun tree member => by simp [others tree member]

theorem filter_none {trees : List Tree} (others : ∀ tree ∈ trees, tree.role ≠ .name) :
    trees.filter isName = [] :=
  List.filter_eq_nil_iff.2 fun tree member => by simp [isName, others tree member]

theorem nameList_append (others : ∀ tree ∈ rest, tree.role ≠ .name) :
    nameList (names ++ rest) = ", ".intercalate ((names.filter isName).map Tree.text) := by
  have none := filter_none others
  simp only [nameList]
  change ", ".intercalate (((names ++ rest).filter isName).map Tree.text) = _
  rw [List.filter_append, none, List.append_nil]

theorem typeAt_append (indent : Nat) (roles : ∀ tree ∈ names, tree.role = .name ∨ tree.role = .plain) :
    typeAt indent .type (names ++ rest) = typeAt indent .type rest := by
  have none : names.find? (fun tree => tree.role = .type) = none :=
    find_none fun tree member => by rcases roles tree member with role | role <;> simp [role]
  rw [typeAt_eq, typeAt_eq, List.find?_append, none, Option.none_or]

end Names

/-! Parameters. -/

section Parameters

variable {indent : Nat} {names names' rest rest' : List Tree} {kind : Kind} {role : Role}
  {y y' : String}

theorem parameterOf_eq (listed : Listed (IsLeaf .name) names)
    (others : ∀ tree ∈ rest, tree.role ≠ .name) (typed : typeAt indent .type rest = some y) :
    parameterOf indent (.node kind role (names ++ rest)) =
      let text := if kind = .variadicParameterDeclaration then "..." ++ y else y
      if (names.filter isName).isEmpty then text
      else ", ".intercalate ((names.filter isName).map Tree.text) ++ (" " ++ text) := by
  have none := filter_none others
  rw [parameterOf, Written.children_node, typeAt_append indent (names_roles listed), typed,
    Option.getD_some, parameterText, nameList_append others, Written.kind_node]
  change (if ((names ++ rest).filter isName).isEmpty = true then _ else _) = _
  rw [List.filter_append, none, List.append_nil]
  simp only [String.append_assoc]

theorem twins_listed (listed : Listed (IsLeaf .name) names) (twins : TwinLists names names') :
    Listed (IsLeaf .name) names' := by
  rcases listed with rfl | separated
  · cases twins
    exact .inl rfl
  · refine .inr ?_
    induction separated generalizing names' with
    | one leaf =>
        obtain _ | ⟨here, _ | _⟩ := twins
        exact .one (here.isLeaf leaf).1
    | more leaf mark _ ih =>
        obtain _ | ⟨here, _ | ⟨comma, later⟩⟩ := twins
        exact .more (here.isLeaf leaf).1 (comma.isMark mark) (ih later)

/-- A parameter is made of its tokens. -/
theorem parameter_prints {tree tree' : Tree} (isParameter : isParameterNode tree)
    (throughout : Throughout tree) (twins : Twins tree tree') :
    tree.tokens ≠ [] ∧ Prints tree tree' (parameterOf indent tree) (parameterOf indent tree') := by
  rcases isParameter with ⟨children, rfl⟩ | ⟨children, rfl⟩
  · have formed := twins.shape (by decide)
    obtain ⟨children', rfl, each⟩ := twins.node
    cases formed with
    | @parameterDeclaration names target named typed =>
        obtain ⟨names', last', rfl, twinNames, last⟩ := twins_append each
        obtain _ | ⟨twinTarget, _ | _⟩ := last
        rename_i target'
        have prints := (throughout.children target (by simp)).good.type indent twinTarget
        have some := prints.some typed.solid.tokens
        refine ⟨by simp [tokensOf_append, typed.solid.tokens], ?_⟩
        have last := typed.role
        have last' := twinTarget.role_eq.trans typed.role
        have found : typeAt indent .type [target] = Option.some (type indent target) := by
          simp [typeAt, last]
        have found' : typeAt indent .type [target'] = Option.some (type indent target') := by
          simp [typeAt, last']
        rw [parameterOf_eq named (by simp [last]) found,
          parameterOf_eq (twins_listed named twinNames) (by simp [last']) found']
        have relaid := relaid_names named twinNames " " (by decide) some prints.relaid
        refine .node (by simpa using relaid) ?_
        by_cases none : (names.filter isName).isEmpty <;> simp [none, some]
  · have formed := twins.shape (by decide)
    obtain ⟨children', rfl, each⟩ := twins.node
    cases formed with
    | @variadicParameter names dots target named mark typed =>
        have listed := listed_of_atMostOne named
        obtain ⟨names', last', rfl, twinNames, last⟩ := twins_append each
        obtain _ | ⟨twinDots, _ | ⟨twinTarget, _ | _⟩⟩ := last
        rename_i dots' target'
        have prints := (throughout.children target (by simp)).good.type indent twinTarget
        have relaid := Relaid.mark mark twinDots prints.relaid
        refine ⟨by simp [tokensOf_append, typed.solid.tokens], ?_⟩
        have first := role_mark mark
        have first' := role_mark (twinDots.isMark mark)
        have last := typed.role
        have last' := twinTarget.role_eq.trans typed.role
        have found : typeAt indent .type [dots, target] = some (type indent target) := by
          simp [typeAt, first, last]
        have found' : typeAt indent .type [dots', target'] = some (type indent target') := by
          simp [typeAt, first', last']
        rw [parameterOf_eq listed (by simp [first, last]) found,
          parameterOf_eq (twins_listed listed twinNames) (by simp [first', last']) found']
        have relaid := relaid_names listed twinNames " " (by decide) (by simp) relaid
        refine .node (by simpa using relaid) ?_
        by_cases none : (names.filter isName).isEmpty <;> simp [none]

theorem isParameterBranch_mark {text : String} {tree : Tree} (mark : IsMark text tree) :
    isParameterBranch tree = false := by
  obtain ⟨token, rfl, -⟩ := mark
  rfl

theorem isParameterBranch_node {tree : Tree} (isParameter : isParameterNode tree) :
    isParameterBranch tree = true := by
  rcases isParameter with ⟨children, rfl⟩ | ⟨children, rfl⟩ <;> rfl

theorem twins_isParameterBranch {tree tree' : Tree} (twins : Twins tree tree') :
    isParameterBranch tree' = isParameterBranch tree := by
  cases tree with
  | leaf => obtain ⟨token', rfl, -⟩ := twins.leaf; rfl
  | node => obtain ⟨children', rfl, -⟩ := twins.node; rfl

/-- What stands between the parentheses of a list of parameters is made of their tokens. -/
theorem relaid_parameterTexts (indent : Nat) {children children' : List Tree}
    (formed : Formed .parameterList children) (below : ∀ child ∈ children, Throughout child)
    (twins : TwinLists children children') :
    ∃ left inner right left' inner' right',
      children = left :: (inner ++ [right]) ∧ children' = left' :: (inner' ++ [right'])
      ∧ IsMark "(" left ∧ IsMark ")" right ∧ Twins left left' ∧ Twins right right'
      ∧ Relaid inner inner' (", ".intercalate (parameterTexts indent children))
          (", ".intercalate (parameterTexts indent children'))
      ∧ (parameterTexts indent children ≠ [] →
        ", ".intercalate (parameterTexts indent children) ≠ "") := by
  cases formed with
  | @parameterList left middle comma right opens items trailing closes =>
      obtain _ | ⟨first, inner⟩ := twins
      rename_i left' inner'
      rw [← List.append_assoc] at inner ⊢
      obtain ⟨inner', last', rfl, inside, last⟩ := twins_append inner
      obtain _ | ⟨last, _ | _⟩ := last
      rename_i right'
      refine ⟨left, middle ++ comma, right, left', inner', right', rfl, rfl, opens, closes, first, last,
        ?_⟩
      have skip (tree : Tree) (mark : ∃ text, IsMark text tree) : isParameterBranch tree = false :=
        mark.elim fun text => isParameterBranch_mark
      simp only [parameterTexts_eq, List.filter_cons, List.filter_append, skip left ⟨_, opens⟩,
        skip right ⟨_, closes⟩, skip left' ⟨_, first.isMark opens⟩, skip right' ⟨_, last.isMark closes⟩,
        Bool.false_eq_true, if_false, List.filter_nil, List.append_nil]
      rw [← List.filter_append, Ne, List.map_eq_nil_iff]
      refine relaid_listed items trailing inside ?_ fun text tree => isParameterBranch_mark
      intro tree tree' member isParameter twins
      obtain ⟨tokens, prints⟩ := parameter_prints isParameter (below tree (by simp [member])) twins
      have branch := isParameterBranch_node isParameter
      exact ⟨branch, (twins_isParameterBranch twins).trans branch, tokens, prints⟩

/-- Parameters in parentheses. -/
theorem relaid_parameters (indent : Nat) {tree tree' : Tree} (isList : IsNode .parameterList role tree)
    (throughout : Throughout tree) (twins : Twins tree tree') :
    Relaid [tree] [tree'] ("(" ++ (", ".intercalate (parameterTexts indent tree.children) ++ ")"))
      ("(" ++ (", ".intercalate (parameterTexts indent tree'.children) ++ ")")) := by
  obtain ⟨children, rfl⟩ := isList
  have formed := twins.shape (by decide)
  obtain ⟨children', rfl, each⟩ := twins.node
  obtain ⟨left, inner, right, left', inner', right', rfl, rfl, opens, closes, first, last, inside,
    -⟩ := relaid_parameterTexts indent formed throughout.children each
  refine .node ?_
  simpa using Relaid.mark opens first (inside.append (Relaid.mark closes last .nil))

end Parameters

/-! Results. -/

section Results

variable {indent : Nat} {trees trees' : List Tree}

theorem child_isNone (tree : Tree) :
    (tree.child? .name).isNone = (tree.children.filter isName).isEmpty := by
  rw [Bool.eq_iff_iff, Option.isNone_iff_eq_none, List.isEmpty_iff, List.filter_eq_nil_iff]
  exact List.find?_eq_none

theorem twins_isLoneType (twins : TwinLists trees trees') : isLoneType trees' = isLoneType trees := by
  have both := twins_filter (p := isParameter)
    (fun here => by rw [isParameter, isParameter, here.kind_eq]) twins
  rw [isLoneType, isLoneType, parameterTrees, parameterTrees]
  generalize trees.filter isParameter = parameters at both ⊢
  generalize trees'.filter isParameter = parameters' at both ⊢
  obtain _ | ⟨here, _ | ⟨next, later⟩⟩ := both
  · rfl
  · have named := twins_isEmpty (p := isName) (fun twins => by rw [isName, isName, twins.role_eq])
      here.below
    simp only [here.kind_eq, child_isNone, named]
  · rfl

theorem twins_noParameters (indent : Nat) (twins : TwinLists trees trees') :
    (parameterTexts indent trees').isEmpty = (parameterTexts indent trees).isEmpty := by
  rw [parameterTexts_eq, parameterTexts_eq, List.isEmpty_map, List.isEmpty_map,
    twins_isEmpty twins_isParameterBranch twins]

/-- A result is made of its tokens; the parentheses around a lone one are left out. -/
theorem relaid_result {tree tree' : Tree} (throughout : Throughout tree) (solid : Solid tree)
    (twins : Twins tree tree') :
    Relaid [tree] [tree'] (resultOf indent tree) (resultOf indent tree') := by
  have typed := throughout.good.type indent twins
  have spaced := Relaid.space " " (by decide) (typed.some solid.tokens) typed.relaid
  cases tree with
  | leaf kind role token =>
      obtain ⟨token', rfl, -⟩ := twins.leaf
      exact spaced
  | node kind role children =>
      by_cases list : kind = .parameterList
      · subst list
        have formed := twins.shape (by decide)
        have same := twins.same
        have inParentheses := relaid_parameters indent ⟨children, rfl⟩ throughout twins
        obtain ⟨children', rfl, each⟩ := twins.node
        simp only [resultOf, if_true, twins_noParameters indent each, twins_isLoneType each]
        by_cases none : (parameterTexts indent children).isEmpty
        · simpa [none] using Relaid.drop same .nil
        · cases isLoneType children with
          -- the parentheses are left out; in the source they are tokens like any other
          | true =>
              obtain ⟨left, inner, right, left', inner', right', rfl, rfl, -, -, first, last, inside,
                some⟩ := relaid_parameterTexts indent formed throughout.children each
              have spaced := Relaid.space " " (by decide) (some (by simpa using none)) inside
              have dropped := Relaid.dropAll (.cons last .nil) .nil
              simp only [none, if_true]
              refine .node (.drop first.same ?_)
              simpa using spaced.append dropped
          | false =>
              have spaced := Relaid.space " " (by decide) (by simp) inParentheses
              simp only [Written.children_node, ← String.append_assoc] at spaced
              simpa [none] using spaced
      · obtain ⟨children', rfl, -⟩ := twins.node
        simpa [resultOf, list] using spaced

def resultText (indent : Nat) (results : List Tree) : String :=
  (results.head?.map (resultOf indent)).getD ""

variable {before parameters results after : List Tree}

theorem result_roles (result : AtMostOne (Fills .result) results) :
    ∀ tree ∈ results, tree.role = .result := by
  rcases result with rfl | ⟨tree, rfl, filled⟩
  · simp
  · simpa using filled.role

theorem relaid_results (result : AtMostOne (Fills .result) trees)
    (below : ∀ child ∈ trees, Throughout child) (twins : TwinLists trees trees') :
    Relaid trees trees' (resultText indent trees) (resultText indent trees') := by
  rcases result with rfl | ⟨tree, rfl, filled⟩
  · cases twins
    exact .nil
  · obtain _ | ⟨here, _ | _⟩ := twins
    exact relaid_result (below tree (by simp)) filled.solid here

/-- Parameters and a result are made of their tokens. -/
theorem relaid_signature (indent : Nat) {list list' : Tree} {results' : List Tree}
    (listed : IsNode .parameterList .parameters list) (result : AtMostOne (Fills .result) results)
    (below : ∀ child ∈ list :: results, Throughout child)
    (twins : TwinLists (list :: results) (list' :: results')) :
    Relaid (list :: results) (list' :: results')
      ("(" ++ (", ".intercalate (parameterTexts indent list.children) ++ ")")
        ++ resultText indent results)
      ("(" ++ (", ".intercalate (parameterTexts indent list'.children) ++ ")")
        ++ resultText indent results') := by
  obtain _ | ⟨first, rest⟩ := twins
  have parameters := relaid_parameters indent listed (below list List.mem_cons_self) first
  exact parameters.append
    (relaid_results result (fun child member => below child (List.mem_cons_of_mem _ member)) rest)

end Results

end InterfaceMocks.Layout
