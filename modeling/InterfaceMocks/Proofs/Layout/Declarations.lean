import InterfaceMocks.Proofs.Layout.Types

/-!
Declarations are made of the tokens of their trees, and open with ink.
-/

namespace InterfaceMocks.Layout

open InterfaceMocks.Syntax InterfaceMocks.Grammar InterfaceMocks.Text
open InterfaceMocks.Written (IsCut)

theorem atMostOne_roles {role : Role} {trees : List Tree} (one : AtMostOne (IsLeaf role) trees) :
    ∀ tree ∈ trees, tree.role = role := by
  rcases one with rfl | ⟨tree, rfl, kind, token, rfl, -⟩ <;> simp

/-! Imports. -/

section Imports

variable {role : Role}

def aliasText (names : List Tree) : String := (names.head?.map fun name => name.text ++ " ").getD ""

theorem importSpec_eq {names : List Tree} {path : Tree} (named : ∀ tree ∈ names, tree.role = .name)
    (pathed : path.role = .path) :
    importSpec (.node .importSpec role (names ++ [path])) = aliasText names ++ path.text := by
  rw [importSpec, Tree.child?, Tree.child?, Written.children_node, List.find?_append,
    List.find?_append, find_role named, find_role named]
  cases names <;> simp [aliasText, pathed]

theorem importSpec_prints {tree tree' : Tree} (isSpec : IsNode .importSpec role tree)
    (twins : Twins tree tree') :
    tree.tokens ≠ [] ∧ Prints tree tree' (importSpec tree) (importSpec tree') := by
  obtain ⟨children, rfl⟩ := isSpec
  have formed := twins.shape (by decide)
  obtain ⟨children', rfl, each⟩ := twins.node
  cases formed with
  | @importSpec names path named pathed =>
      obtain ⟨names', last', rfl, twinNames, last⟩ := twins_append each
      obtain _ | ⟨twinPath, _ | _⟩ := last
      have roles := atMostOne_roles named
      obtain ⟨tokens, prints⟩ := leaf_prints pathed twinPath
      have some := prints.some tokens
      have path : path.role = .path := by
        obtain ⟨kind, token, rfl, -⟩ := pathed
        rfl
      refine ⟨by simp [tokensOf_append, tokens], ?_⟩
      rw [importSpec_eq roles path,
        importSpec_eq (twins_roles twinNames roles) (twinPath.role_eq.trans path)]
      refine .node ?_ (by simp [some])
      rcases named with rfl | ⟨name, rfl, leaf⟩
      · cases twinNames
        simpa [aliasText] using prints.relaid
      · obtain _ | ⟨twinName, _ | _⟩ := twinNames
        simpa [aliasText, String.append_assoc] using
          Relaid.leaf leaf twinName (.space " " (by decide) some prints.relaid)

def isSpec (tree : Tree) : Bool := tree.kind = .importSpec

theorem import_list {token : Token} {children : List Tree} :
    importDeclaration (.node .importDeclaration role
      [.leaf .mark .plain token, .node .importSpecList .plain children]) =
      importBlock ((children.filter isSpec).map importSpec) := by
  simp [importDeclaration, Tree.childrenOf, Tree.kind]
  rfl

theorem import_single {token : Token} {children : List Tree} :
    importDeclaration (.node .importDeclaration role
      [.leaf .mark .plain token, .node .importSpec .plain children]) =
      "import" ++ (" " ++ importSpec (.node .importSpec .plain children)) := by
  simp [importDeclaration, Tree.childrenOf, Tree.kind, ← String.append_assoc]

theorem importBlock_eq {specs : List String} (some : specs.isEmpty = false) :
    importBlock specs = "import" ++ (" " ++ ("(" ++ ("\n"
      ++ (String.join (specs.map fun spec => "\t" ++ spec ++ "\n") ++ ("" ++ ")"))))) := by
  rw [importBlock, some]
  simp [← String.append_assoc]

/-- An import is made of its tokens. -/
theorem relaid_import {word tree word' tree' : Tree} (opens : IsMark "import" word)
    (specs : IsNode .importSpecList .plain tree ∨ IsNode .importSpec .plain tree)
    (first : Twins word word') (twins : Twins tree tree') :
    Relaid [word, tree] [word', tree']
      (importDeclaration (.node .importDeclaration role [word, tree]))
      (importDeclaration (.node .importDeclaration role [word', tree'])) := by
  have isImport := opens
  obtain ⟨token, rfl, -⟩ := opens
  obtain ⟨token', rfl, -⟩ := first.leaf
  rcases specs with ⟨children, rfl⟩ | ⟨children, rfl⟩
  · have formed := twins.shape (by decide)
    obtain ⟨children', rfl, each⟩ := twins.node
    have same {tree tree' : Tree} (twins : Twins tree tree') : isSpec tree' = isSpec tree := by
      rw [isSpec, isSpec, twins.kind_eq]
    have empties := twins_isEmpty same each
    rw [import_list, import_list]
    cases formed with
    | @importSpecList left middle right mark items closes =>
        cases none : ((left :: (middle ++ [right])).filter isSpec).isEmpty with
        | true =>
            simp only [importBlock, List.isEmpty_map, empties, none, if_true]
            exact Relaid.mark isImport first
              (.space " " (by decide) (by simp) (relaid_brackets mark closes each).within)
        | false =>
            rw [importBlock_eq (by simpa using none),
              importBlock_eq (by simpa using empties.trans none), List.map_map, List.map_map]
            have specs := relaid_block (f := importSpec) "\t" "" (by decide) (by decide) mark closes
              each
              (fun tree tree' member twins => ⟨same twins, fun spec => by
                rcases items tree member with mark | ⟨kind, among, children, rfl⟩
                · simp [isSpec, Tree.isNamed] at spec mark
                  simp [spec] at mark
                · obtain rfl : kind = .importSpec := by simpa using among
                  exact (importSpec_prints ⟨children, rfl⟩ twins).2.relaid⟩)
              (fun text tree mark => by obtain ⟨token, rfl, -⟩ := mark; rfl) (by simp)
            exact Relaid.mark isImport first (.space " " (by decide) (by simp) specs.within)
  · obtain ⟨tokens, prints⟩ := importSpec_prints ⟨children, rfl⟩ twins
    obtain ⟨children', rfl, -⟩ := twins.node
    rw [import_single, import_single]
    exact Relaid.mark isImport first (.space " " (by decide) (prints.some tokens) prints.relaid)

end Imports

/-! Types. -/

section TypeDeclarations

variable {role : Role} {indent : Nat}

theorem typeSpec_single {name target : Tree} (named : name.role = .name)
    (typed : target.role = .type) :
    typeSpec indent (.node .typeSpec role [name, target]) =
      name.text ++ (" " ++ type indent target) := by
  simp [typeSpec, Tree.child?, named, typed, String.append_assoc]

theorem typeSpec_generic {name parameters target : Tree} (named : name.role = .name)
    (generic : parameters.role = .typeParameters) (typed : target.role = .type) :
    typeSpec indent (.node .typeSpec role [name, parameters, target]) =
      collapsed (.node .typeSpec role [name, parameters, target]) := by
  simp [typeSpec, Tree.child?, named, generic, typed]

theorem typeSpec_alias {name equals target : Tree} (named : name.role = .name)
    (mark : equals.role = .plain) (typed : target.role = .type) :
    typeSpec indent (.node .typeAlias role [name, equals, target]) =
      name.text ++ (" " ++ ("=" ++ (" " ++ type indent target))) := by
  simp [typeSpec, Tree.child?, named, mark, typed, ← String.append_assoc]

theorem leaf_role {tree : Tree} (leaf : IsLeaf role tree) : tree.role = role := by
  obtain ⟨kind, token, rfl, -⟩ := leaf
  rfl

/-- What a type is declared to be is made of its tokens. -/
theorem typeSpec_prints {tree tree' : Tree} (indent : Nat)
    (isSpec : IsNode .typeSpec .plain tree ∨ IsNode .typeAlias .plain tree) (twins : Twins tree tree') :
    tree.tokens ≠ [] ∧ Prints tree tree' (typeSpec indent tree) (typeSpec indent tree') := by
  have kept := twins.kept
  rcases isSpec with ⟨children, rfl⟩ | ⟨children, rfl⟩
  · have formed := twins.shape (by decide)
    obtain ⟨children', rfl, each⟩ := twins.node
    cases formed with
    | @typeSpec name parameters target named generic typed =>
        have isName := leaf_role named
        refine ⟨by simp [tokensOf_append, typed.solid.tokens], ?_⟩
        rcases generic with rfl | ⟨parameter, rfl, filled⟩
        · obtain _ | ⟨twinName, _ | ⟨twinTarget, _ | _⟩⟩ := each
          rw [List.nil_append, typeSpec_single isName typed.role, typeSpec_single
            (twinName.role_eq.trans isName) (twinTarget.role_eq.trans typed.role)]
          have prints := (throughout target).good.type indent twinTarget
          have some := prints.some typed.solid.tokens
          exact .node (Relaid.leaf named twinName (.space " " (by decide) some prints.relaid)) (by simp)
        -- with type parameters the whole is kept as it is written
        · obtain _ | ⟨twinName, _ | ⟨twinParameters, _ | ⟨twinTarget, _ | _⟩⟩⟩ := each
          rw [List.singleton_append, typeSpec_generic isName filled.role typed.role, typeSpec_generic
            (twinName.role_eq.trans isName) (twinParameters.role_eq.trans filled.role)
            (twinTarget.role_eq.trans typed.role)]
          exact kept
  · have formed := twins.shape (by decide)
    obtain ⟨children', rfl, each⟩ := twins.node
    cases formed with
    | @typeAlias name equals target named mark typed =>
        have isName := leaf_role named
        obtain _ | ⟨twinName, _ | ⟨twinEquals, _ | ⟨twinTarget, _ | _⟩⟩⟩ := each
        refine ⟨by simp [typed.solid.tokens], ?_⟩
        rw [typeSpec_alias isName (role_mark mark) typed.role, typeSpec_alias
          (twinName.role_eq.trans isName) (role_mark (twinEquals.isMark mark))
          (twinTarget.role_eq.trans typed.role)]
        have prints := (throughout target).good.type indent twinTarget
        have some := prints.some typed.solid.tokens
        have rest := Relaid.mark mark twinEquals (.space " " (by decide) some prints.relaid)
        exact .node (Relaid.leaf named twinName (.space " " (by decide) (by simp) rest)) (by simp)

theorem items_isTypeSpec {trees : List Tree} (plain : ∀ tree ∈ trees, Plain tree)
    (items : ∀ tree ∈ trees, IsItem [.typeSpec, .typeAlias] tree) :
    (Tree.itemsOf trees).all isTypeSpec = true := by
  rw [itemsOf_plain plain, List.all_map, List.all_eq_true]
  intro tree member
  obtain ⟨member, named⟩ := List.mem_filter.1 member
  rcases items tree member with mark | ⟨kind, among, children, rfl⟩
  · simp [mark] at named
  · rcases List.mem_pair.1 among with rfl | rfl <;> rfl

theorem typeDeclaration_plain {trees : List Tree} (plain : ∀ tree ∈ trees, Plain tree)
    (items : ∀ tree ∈ trees, IsItem [.typeSpec, .typeAlias] tree) :
    typeDeclaration (.node .typeDeclaration role trees) =
      if isGrouped (.node .typeDeclaration role trees) then
        "type" ++ (" " ++ ("(" ++ ("\n" ++ (String.join ((trees.filter Tree.isNamed).map
          fun spec => "\t" ++ typeSpec 1 spec ++ "\n") ++ ("" ++ ")")))))
      else
        match trees.filter Tree.isNamed with
        | spec :: _ => "type" ++ (" " ++ typeSpec 0 spec)
        | [] => collapsed (.node .typeDeclaration role trees) := by
  have all := items_isTypeSpec plain items
  have specs : (Tree.itemsOf trees).filterMap Item.tree? = trees.filter Tree.isNamed := by
    rw [itemsOf_plain plain, List.filterMap_map]
    exact List.filterMap_some
  rw [typeDeclaration, Tree.items, Written.children_node, all, specs]
  cases trees.filter Tree.isNamed <;> simp [← String.append_assoc]

theorem relaid_typeDeclaration {word tree word' tree' : Tree} (opens : IsMark "type" word)
    (spec : IsNode .typeSpec .plain tree ∨ IsNode .typeAlias .plain tree)
    (twinWord : Twins word word') (twinSpec : Twins tree tree') :
    Relaid [word, tree] [word', tree']
      (typeDeclaration (.node .typeDeclaration role [word, tree]))
      (typeDeclaration (.node .typeDeclaration role [word', tree'])) := by
  have text {word tree : Tree} (opens : IsMark "type" word)
      (spec : IsNode .typeSpec .plain tree ∨ IsNode .typeAlias .plain tree)
      (plain : ∀ item ∈ [word, tree], Plain item) :
      typeDeclaration (.node .typeDeclaration role [word, tree]) =
        "type" ++ (" " ++ typeSpec 0 tree) := by
    have named : tree.isNamed = true := by
      rcases spec with ⟨children, rfl⟩ | ⟨children, rfl⟩ <;> rfl
    have items : ∀ item ∈ [word, tree], IsItem [.typeSpec, .typeAlias] item := by
      simp [IsItem, solid_mark opens, spec]
    have alone : isGrouped (.node .typeDeclaration role [word, tree]) = false := by
      obtain ⟨token, rfl, mark⟩ := opens
      rcases spec with ⟨children, rfl⟩ | ⟨children, rfl⟩ <;> simp [isGrouped, mark, Tree.kind]
    rw [typeDeclaration_plain plain items, alone]
    simp [solid_mark opens, named]
  obtain ⟨tokens, prints⟩ := typeSpec_prints 0 spec twinSpec
  have spec' : IsNode .typeSpec .plain tree' ∨ IsNode .typeAlias .plain tree' :=
    spec.imp twinSpec.isNode twinSpec.isNode
  obtain ⟨plain, plain'⟩ := twins_plain (.cons twinWord (.cons twinSpec .nil))
  rw [text opens spec plain, text (twinWord.isMark opens) spec' plain']
  exact Relaid.mark opens twinWord (.space " " (by decide) (prints.some tokens) prints.relaid)

theorem relaid_typeGroup {word left right : Tree} {middle all : List Tree} (opens : IsMark "type" word)
    (mark : IsMark "(" left) (items : ∀ tree ∈ middle, IsItem [.typeSpec, .typeAlias] tree)
    (closes : IsMark ")" right) (twins : TwinLists (word :: left :: (middle ++ [right])) all) :
    Relaid (word :: left :: (middle ++ [right])) all
      (typeDeclaration (.node .typeDeclaration role (word :: left :: (middle ++ [right]))))
      (typeDeclaration (.node .typeDeclaration role all)) := by
  have whole : ∀ tree ∈ word :: left :: (middle ++ [right]), IsItem [.typeSpec, .typeAlias] tree := by
    have isMark {text : String} {tree : Tree} (mark : IsMark text tree) :
        IsItem [.typeSpec, .typeAlias] tree := .inl (solid_mark mark)
    simp only [List.mem_cons, List.mem_append, List.not_mem_nil, or_false]
    rintro tree (rfl | rfl | member | rfl)
    · exact isMark opens
    · exact isMark mark
    · exact items tree member
    · exact isMark closes
  obtain ⟨plain, plain'⟩ := twins_plain twins
  rw [typeDeclaration_plain plain whole,
    typeDeclaration_plain plain' (twins_forall Twins.isItem twins whole)]
  have grouped {word left : Tree} {rest : List Tree} (mark : IsMark "(" left) :
      isGrouped (.node .typeDeclaration role (word :: left :: rest)) = true := by
    obtain ⟨token, rfl, text⟩ := mark
    simp [isGrouped, text, Tree.kind]
  obtain _ | ⟨twinWord, inner⟩ := twins
  have group := inner
  obtain _ | ⟨twinLeft, inner⟩ := inner
  rw [grouped mark, grouped (twinLeft.isMark mark), if_pos rfl, if_pos rfl]
  have skip {word : Tree} {trees : List Tree} (opens : IsMark "type" word) :
      (word :: trees).filter Tree.isNamed = trees.filter Tree.isNamed := by
    simp [solid_mark opens]
  rw [skip opens, skip (twinWord.isMark opens)]
  have specs := relaid_block (f := typeSpec 1) "\t" "" (by decide) (by decide) mark closes group
    (fun tree tree' member twins => ⟨twins.isNamed_eq, fun named => by
      rcases items tree member with mark | ⟨kind, among, isNode⟩
      · simp [mark] at named
      · have spec : IsNode .typeSpec .plain tree ∨ IsNode .typeAlias .plain tree := by
          rcases List.mem_pair.1 among with rfl | rfl
          · exact .inl isNode
          · exact .inr isNode
        exact (typeSpec_prints 1 spec twins).2.relaid⟩)
    (fun text tree => solid_mark) (by simp)
  exact Relaid.mark opens twinWord (.space " " (by decide) (by simp) specs)

end TypeDeclarations

/-! Statements and functions. -/

section Functions

variable {role : Role}

theorem statementTree_of_kept {tree : Tree} (other : tree.kind ≠ .returnStatement)
    (others : tree.kind ≠ .expressionStatement) : statementTree tree = collapsed tree := by
  rw [statementTree]
  split <;> simp_all

theorem return_nothing {word : Tree} (opens : IsMark "return" word) :
    statementTree (.node .returnStatement role [word]) = "return" := by
  obtain ⟨token, rfl, -⟩ := opens
  simp [statementTree, Tree.childrenOf, Tree.kind]

theorem return_values {word : Tree} {values : List Tree} (opens : IsMark "return" word)
    (plain : ∀ tree ∈ values, Plain tree) :
    statementTree (.node .returnStatement role [word, .node .expressionList .plain values]) =
      "return" ++ (" " ++ ", ".intercalate ((values.filter Tree.isNamed).map expression)) := by
  obtain ⟨token, rfl, -⟩ := opens
  simp [statementTree, Tree.childrenOf, Tree.kind, expressionList, expressionItems_plain plain,
    ← String.append_assoc]

theorem relaid_return {children children' : List Tree} (formed : Formed .returnStatement children)
    (twins : TwinLists children children') :
    Relaid children children' (statementTree (.node .returnStatement role children))
      (statementTree (.node .returnStatement role children')) := by
  cases formed with
  | returnNothing opens =>
      obtain _ | ⟨twinWord, _ | _⟩ := twins
      rw [return_nothing opens, return_nothing (twinWord.isMark opens)]
      simpa using Relaid.mark opens twinWord .nil
  | @returnStatement word values opens listed =>
      obtain _ | ⟨twinWord, _ | ⟨twinValues, _ | _⟩⟩ := twins
      obtain ⟨values', rfl, each⟩ := twinValues.node
      obtain ⟨plain, plain'⟩ := twins_plain each
      rw [return_values opens plain, return_values (twinWord.isMark opens) plain']
      obtain ⟨relaid, some, -⟩ := relaid_separated listed each
        (fun tree tree' _ solid twins => ⟨solid.named, twins.isNamed_eq.trans solid.named, solid.tokens,
          (throughout tree).good.expression twins⟩) fun text tree => solid_mark
      exact Relaid.mark opens twinWord (.space " " (by decide) some relaid.within)

theorem expressionStatement_eq {children : List Tree} (plain : ∀ tree ∈ children, Plain tree) :
    statementTree (.node .expressionStatement role children) =
      ((children.filter Tree.isNamed).head?.map expression).getD
        (collapsed (.node .expressionStatement role children)) := by
  simp only [statementTree, Tree.kind, Written.children_node, expressionItems_plain plain]
  cases children.filter Tree.isNamed <;> rfl

/-- The first named one of some trees is printed, and the others are left out. -/
theorem relaid_firstNamed {trees trees' : List Tree} (twins : TwinLists trees trees') :
    ((trees.filter Tree.isNamed).head? = none ∧ (trees'.filter Tree.isNamed).head? = none)
      ∨ ∃ tree tree', (trees.filter Tree.isNamed).head? = some tree
        ∧ (trees'.filter Tree.isNamed).head? = some tree'
        ∧ Relaid trees trees' (expression tree) (expression tree') := by
  induction twins with
  | nil => exact .inl ⟨rfl, rfl⟩
  | @cons tree tree' _ _ here later ih =>
      have same := here.isNamed_eq
      cases named : tree.isNamed with
      | false =>
          rw [named] at same
          rw [List.filter_cons_of_neg (by simp [named]), List.filter_cons_of_neg (by simp [same])]
          refine ih.imp_right ?_
          rintro ⟨first, first', found, found', relaid⟩
          exact ⟨first, first', found, found', .drop here.same relaid⟩
      | true =>
          rw [named] at same
          rw [List.filter_cons_of_pos named, List.filter_cons_of_pos same]
          have rest := Relaid.dropAll later .nil
          simp only [List.append_nil] at rest
          refine .inr ⟨tree, tree', rfl, rfl, ?_⟩
          simpa using ((throughout tree).good.expression here).before rest

/-- A statement is made of its tokens. -/
theorem relaid_statement {tree tree' : Tree} (twins : Twins tree tree') :
    Relaid [tree] [tree'] (statementTree tree) (statementTree tree') := by
  have kept := twins.kept.relaid
  by_cases returns : tree.kind = .returnStatement
  · obtain ⟨role, children, children', rfl, rfl, formed, each⟩ := twins.branch returns (by decide)
    exact (relaid_return formed each).within
  by_cases calls : tree.kind = .expressionStatement
  · cases tree with
    -- without children there is nothing to print but the token
    | leaf kind role token =>
        obtain rfl : kind = .expressionStatement := calls
        obtain ⟨token', rfl, -⟩ := twins.leaf
        exact kept
    | node kind role children =>
        obtain rfl : kind = .expressionStatement := calls
        obtain ⟨children', rfl, each⟩ := twins.node
        obtain ⟨plain, plain'⟩ := twins_plain each
        rw [expressionStatement_eq plain, expressionStatement_eq plain']
        rcases relaid_firstNamed each with ⟨none, none'⟩ | ⟨first, first', found, found', relaid⟩
        · rw [none, none']
          exact kept
        · rw [found, found']
          exact relaid.within
  · have same := twins.kind_eq
    rw [statementTree_of_kept returns calls,
      statementTree_of_kept (by rwa [same]) (by rwa [same])]
    exact kept

def bodyText (bodies : List Tree) : String := (bodies.head?.map fun body => " " ++ block body).getD ""

theorem block_eq {kind : Kind} {children : List Tree} (plain : ∀ tree ∈ children, Plain tree) :
    block (.node kind role children) =
      "\x7b" ++ ("\n" ++ (String.join ((children.filter Tree.isNamed).map
        fun tree => "\t" ++ statementTree tree ++ "\n") ++ ("" ++ "\x7d"))) := by
  rw [block, Tree.items, Written.children_node, itemsOf_plain plain, List.map_map]
  simp [← String.append_assoc, Function.comp_def, statement]

/-- A body is made of its tokens. -/
theorem relaid_body {bodies bodies' : List Tree} (bodied : AtMostOne (IsNode .block .body) bodies)
    (twins : TwinLists bodies bodies') :
    Relaid bodies bodies' (bodyText bodies) (bodyText bodies') := by
  rcases bodied with rfl | ⟨body, rfl, children, rfl⟩
  · cases twins
    exact .nil
  · obtain _ | ⟨twins, _ | _⟩ := twins
    have formed := twins.shape (by decide)
    obtain ⟨children', rfl, each⟩ := twins.node
    obtain ⟨plain, plain'⟩ := twins_plain each
    simp only [bodyText, List.head?_cons, Option.map_some, Option.getD_some]
    rw [block_eq plain, block_eq plain']
    cases formed with
    | block opens closes =>
        have statements := relaid_block (f := statementTree) "\t" "" (by decide) (by decide) opens
          closes each (fun tree tree' _ twins => ⟨twins.isNamed_eq, fun _ => relaid_statement twins⟩)
          (fun text tree => solid_mark) (by simp)
        exact .space " " (by decide) (by simp) statements.within

def receiverText (receivers : List Tree) : String :=
  (receivers.head?.map fun receiver =>
    "(" ++ (", ".intercalate (parameterTexts 0 receiver.children) ++ ") ")).getD ""

theorem functionDeclaration_eq {kind : Kind} {word name parameters : Tree}
    {receivers results bodies : List Tree} (opens : word.role = .plain)
    (received : ∀ tree ∈ receivers, tree.role = .receiver) (named : name.role = .name)
    (listed : parameters.role = .parameters) (result : ∀ tree ∈ results, tree.role = .result)
    (bodied : ∀ tree ∈ bodies, tree.role = .body) :
    functionDeclaration (.node kind role
        (word :: (receivers ++ name :: parameters :: (results ++ bodies)))) =
      "func " ++ (receiverText receivers ++ (name.text
        ++ ("(" ++ (", ".intercalate (parameterTexts 0 parameters.children) ++ ")")
          ++ resultText 0 results ++ bodyText bodies))) := by
  rw [functionDeclaration, signature, signatureText, parametersAt_eq, parametersAt_eq, resultAt_eq]
  simp only [Tree.child?, Written.children_node, List.find?_cons, List.find?_append,
    find_role received, find_role result, find_role bodied, opens, named, listed]
  cases receivers <;> simp [receiverText, resultText, bodyText, String.append_assoc]

theorem relaid_receiver {receivers receivers' rest rest' : List Tree} {y y' : String}
    (received : AtMostOne (IsNode .parameterList .receiver) receivers) (some : y ≠ "")
    (twins : TwinLists receivers receivers') (after : Relaid rest rest' y y') :
    Relaid (receivers ++ rest) (receivers' ++ rest') (receiverText receivers ++ y)
      (receiverText receivers' ++ y') := by
  rcases received with rfl | ⟨receiver, rfl, listed⟩
  · cases twins
    simpa [receiverText] using after
  · obtain _ | ⟨here, _ | _⟩ := twins
    have parameters := relaid_parameters 0 listed (throughout receiver) here
    have closing (x : String) : ") " ++ x = ")" ++ (" " ++ x) := by rw [← String.append_assoc]; rfl
    have whole := parameters.append (.space " " (by decide) some after)
    simpa [receiverText, String.append_assoc, closing] using whole

/-- A function or a method without type parameters is made of its tokens. -/
theorem relaid_function {kind : Kind} {word name parameters : Tree}
    {receivers results bodies all : List Tree} (opens : IsMark "func" word)
    (received : AtMostOne (IsNode .parameterList .receiver) receivers) (named : IsLeaf .name name)
    (listed : IsNode .parameterList .parameters parameters)
    (result : AtMostOne (Fills .result) results) (bodied : AtMostOne (IsNode .block .body) bodies)
    (twins : TwinLists (word :: (receivers ++ name :: parameters :: (results ++ bodies))) all) :
    Relaid (word :: (receivers ++ name :: parameters :: (results ++ bodies))) all
      (functionDeclaration (.node kind role
        (word :: (receivers ++ name :: parameters :: (results ++ bodies)))))
      (functionDeclaration (.node kind role all)) := by
  obtain _ | ⟨twinWord, twins⟩ := twins
  obtain ⟨receivers', rest', rfl, twinReceivers, rest⟩ := twins_append twins
  obtain _ | ⟨twinName, _ | ⟨twinParameters, last⟩⟩ := rest
  obtain ⟨results', bodies', rfl, twinResults, twinBodies⟩ := twins_append last
  have receiving : ∀ tree ∈ receivers, tree.role = .receiver := by
    rcases received with rfl | ⟨tree, rfl, isNode⟩
    · simp
    · simpa using isNode.role
  have ending : ∀ tree ∈ bodies, tree.role = .body := by
    rcases bodied with rfl | ⟨tree, rfl, isNode⟩
    · simp
    · simpa using isNode.role
  have resulting := result_roles result
  rw [functionDeclaration_eq (role_mark opens) receiving (leaf_role named) listed.role resulting ending,
    functionDeclaration_eq (role_mark (twinWord.isMark opens)) (twins_roles twinReceivers receiving)
      (twinName.role_eq.trans (leaf_role named)) (twinParameters.role_eq.trans listed.role)
      (twins_roles twinResults resulting) (twins_roles twinBodies ending)]
  have signature := relaid_signature 0 listed result (throughout_all _)
    (.cons twinParameters twinResults)
  have rest := Relaid.leaf named twinName (signature.append (relaid_body bodied twinBodies))
  have whole := relaid_receiver received (by simp) twinReceivers rest
  have opening (x : String) : "func " ++ x = "func" ++ (" " ++ x) := by rw [← String.append_assoc]; rfl
  rw [opening, opening]
  exact Relaid.mark opens twinWord (.space " " (by decide) (by simp) whole)

theorem functionDeclaration_generic {kind : Kind} {word name generic : Tree} {rest : List Tree}
    (opens : word.role = .plain) (named : name.role = .name)
    (isGeneric : generic.role = .typeParameters) :
    functionDeclaration (.node kind role (word :: name :: generic :: rest)) =
      collapsed (.node kind role (word :: name :: generic :: rest)) := by
  simp [functionDeclaration, Tree.child?, opens, named, isGeneric]

end Functions

/-! Declarations. -/

section Declarations

variable {tree tree' : Tree}

theorem declaration_of_kept (other : tree.kind ∉ declarationKinds) :
    declaration tree = collapsed tree := by
  simp only [declarationKinds, List.mem_cons, List.not_mem_nil, or_false, not_or] at other
  rw [declaration]
  split <;> simp_all

theorem package_eq {role : Role} {word name : Tree} (opens : IsMark "package" word)
    (isName : name.kind = .packageIdentifier) :
    declaration (.node .packageClause role [word, name]) = "package" ++ (" " ++ name.text) := by
  have skip : word.kind = .mark := by
    obtain ⟨token, rfl, -⟩ := opens
    rfl
  simp [declaration, Tree.childrenOf, skip, isName, ← String.append_assoc]

/-- Every declaration is made of its tokens. -/
theorem relaid_declaration (twins : Twins tree tree') :
    Relaid [tree] [tree'] (declaration tree) (declaration tree') := by
  have kept := twins.kept.relaid
  by_cases laid : tree.kind ∈ declarationKinds
  · obtain ⟨role, children, children', whole, whole', formed, each⟩ :=
      twins.branch rfl ((by decide : declarationKinds ⊆ laidKinds) laid)
    generalize tree.kind = kind at whole whole' formed laid
    subst whole whole'
    cases formed with
    | package opens named isName =>
        obtain _ | ⟨twinWord, _ | ⟨twinName, _ | _⟩⟩ := each
        obtain ⟨tokens, prints⟩ := leaf_prints named twinName
        rw [package_eq opens isName,
          package_eq (twinWord.isMark opens) (twinName.kind_eq.trans isName)]
        have rest := Relaid.space " " (by decide) (prints.some tokens) prints.relaid
        exact (Relaid.mark opens twinWord rest).within
    | importDeclaration opens specs =>
        obtain _ | ⟨twinWord, _ | ⟨twinSpec, _ | _⟩⟩ := each
        exact (relaid_import opens specs twinWord twinSpec).within
    | typeDeclaration opens isSpec =>
        obtain _ | ⟨twinWord, _ | ⟨twinSpec, _ | _⟩⟩ := each
        exact (relaid_typeDeclaration opens isSpec twinWord twinSpec).within
    | typeGroup opens mark items closes => exact (relaid_typeGroup opens mark items closes each).within
    | functionDeclaration opens named typeParameters listed result bodied =>
        rcases typeParameters with rfl | ⟨parameter, rfl, filled⟩
        · exact (relaid_function opens (.inl rfl) named listed result bodied each).within
        -- type parameters keep the function as it is written
        · obtain _ | ⟨twinWord, _ | ⟨twinName, _ | ⟨twinGeneric, _⟩⟩⟩ := each
          simp only [declaration, Tree.kind, List.singleton_append] at kept ⊢
          rwa [functionDeclaration_generic (role_mark opens) (leaf_role named) filled.role,
            functionDeclaration_generic (role_mark (twinWord.isMark opens))
              (twinName.role_eq.trans (leaf_role named)) (twinGeneric.role_eq.trans filled.role)]
    | methodDeclaration opens received named listed result bodied =>
        exact (relaid_function opens (.inr ⟨_, rfl, received⟩) named listed result bodied each).within
    | _ => simp [declarationKinds] at laid
  · rw [declaration_of_kept laid, declaration_of_kept (by rwa [twins.kind_eq])]
    exact kept

theorem collapsed_opens (cut : ∀ token ∈ tree.tokens, IsCut token) (some : tree.tokens ≠ []) :
    Opens (collapsed tree).toList :=
  opens_collapse (collapse_ne_empty (opens_body cut some).ink_pos)

/-- Every declaration opens with ink: with its keyword, or with its first token. -/
theorem declaration_opens (cut : ∀ token ∈ tree.tokens, IsCut token) (some : tree.tokens ≠ []) :
    Opens (declaration tree).toList := by
  have kept := collapsed_opens cut some
  have word {word : String} (rest : String) (opens : Opens word.toList) :
      Opens (word ++ rest).toList := by
    rw [String.toList_append]
    exact opens.append _
  have function : Opens (functionDeclaration tree).toList := by
    rw [functionDeclaration]
    split
    · simp only [String.append_assoc]
      exact word _ ⟨'f', _, rfl, by decide⟩
    · exact kept
  rw [declaration]
  split
  · split
    · exact word _ ⟨'p', _, rfl, by decide⟩
    · exact kept
  · rw [importDeclaration]
    split
    · exact word _ ⟨'i', _, rfl, by decide⟩
    · rw [importBlock]
      split
      · exact ⟨'i', _, rfl, by decide⟩
      · rw [String.append_assoc]
        exact word _ ⟨'i', _, rfl, by decide⟩
  · rw [typeDeclaration]
    split
    · split
      · rw [String.append_assoc]
        exact word _ ⟨'t', _, rfl, by decide⟩
      · dsimp only
        split
        · exact word _ ⟨'t', _, rfl, by decide⟩
        · exact kept
    · exact kept
  · exact function
  · exact function
  · exact kept

end Declarations

end InterfaceMocks.Layout
