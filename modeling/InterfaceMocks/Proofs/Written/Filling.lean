import InterfaceMocks.Proofs.Text.Replacement
import InterfaceMocks.Proofs.Written.Spelling

/-!
The placeholder in written sources. Where the text of an unrecognised type stands as a token of its
own, protecting a source puts the placeholder into these tokens and leaves all else as it is, and
restoring it undoes that.
-/

namespace InterfaceMocks

namespace TypeExpr

def fill (placeholder : String) : TypeExpr → TypeExpr
  | named text => named text
  | qualified package text => qualified package text
  | pointer inner => pointer (inner.fill placeholder)
  | array length element => array length (element.fill placeholder)
  | unrecognised => named placeholder

end TypeExpr

namespace Written

open InterfaceMocks.Syntax
open InterfaceMocks.Text
open InterfaceMocks.Placeholder

def Clear (text : String) : Prop := '<' ∉ text.toList

instance (text : String) : Decidable (Clear text) := inferInstanceAs (Decidable ('<' ∉ _))

@[simp] theorem clear_marks : Clear "(" ∧ Clear ")" ∧ Clear "[" ∧ Clear "]" ∧ Clear "\x7b"
    ∧ Clear "\x7d" ∧ Clear "*" ∧ Clear "," ∧ Clear "." := by
  decide

@[simp] theorem clear_spaces : Clear "" ∧ Clear " " ∧ Clear "\n" := by decide

@[simp] theorem clear_words : Clear "package" ∧ Clear "import" ∧ Clear "type" ∧ Clear "struct"
    ∧ Clear "interface" ∧ Clear "func" ∧ Clear "return" := by
  decide

theorem clear_of_blank {space : String} (blank : Blank space) : Clear space := by
  intro member
  exact absurd (List.all_eq_true.1 blank _ member) (by decide)

theorem clear_of_isName {text : String} (isName : IsName text) : Clear text := by
  intro member
  exact absurd (isName_continues isName _ member) (by decide)

theorem marker_start : TypeExpr.unrecognisedText.toList = '<' :: "unrecognised>".toList := by
  simp [TypeExpr.unrecognisedText]

theorem protect_clear {text : String} (clear : Clear text) (placeholder : String) :
    protect placeholder text = text := by
  have same : Replace.replaceFrom TypeExpr.unrecognisedText.toList placeholder.toList 0
      (text.toList ++ []) = text.toList ++ [] :=
    Replace.replaceFrom_append_of_not_mem marker_start clear []
  rw [List.append_nil] at same
  rw [protect, replaceAll, same, String.ofList_toList]

theorem protect_marker (placeholder : String) :
    protect placeholder TypeExpr.unrecognisedText = placeholder := by
  have same : Replace.replaceFrom TypeExpr.unrecognisedText.toList placeholder.toList 0
      (TypeExpr.unrecognisedText.toList ++ []) = placeholder.toList ++ [] :=
    Replace.replaceFrom_pattern (by simp [marker_start]) []
  rw [List.append_nil, List.append_nil] at same
  rw [protect, replaceAll, same, String.ofList_toList]

def fill (placeholder : String) (token : Token) : Token :=
  { token with text := protect placeholder token.text }

/-- Whether the text of an unrecognised type cannot reach from a token into the next. -/
structure Guarded (token : Token) : Prop where
  lead : Clear (Gap.textOf token.lead)
  text : token.text = TypeExpr.unrecognisedText ∨ Clear token.text
    ∨ ∀ c ∈ token.text.toList.getLast?, c ∉ TypeExpr.unrecognisedText.toList

theorem replaceFrom_guarded {token : Token} (guarded : Guarded token) (placeholder : String)
    (rest : List Char) :
    Replace.replaceFrom TypeExpr.unrecognisedText.toList placeholder.toList 0
        (token.source.toList ++ rest) =
      (fill placeholder token).source.toList
        ++ Replace.replaceFrom TypeExpr.unrecognisedText.toList placeholder.toList 0 rest := by
  have source : token.source.toList ++ rest =
      (Gap.textOf token.lead).toList ++ (token.text.toList ++ rest) := by
    simp [Token.source]
  have filled : (fill placeholder token).source.toList =
      (Gap.textOf token.lead).toList ++ (protect placeholder token.text).toList := by
    simp [fill, Token.source]
  rw [source, Replace.replaceFrom_append_of_not_mem marker_start guarded.lead, filled,
    List.append_assoc]
  congr 1
  rcases guarded.text with marked | clear | closed
  · rw [marked, protect_marker, Replace.replaceFrom_pattern (by simp [marker_start])]
  · rw [protect_clear clear, Replace.replaceFrom_append_of_not_mem marker_start clear]
  · rw [Replace.replaceFrom_split (.inl closed) (Nat.zero_le _), protect, replaceAll,
      String.toList_ofList]

/-- Protecting a written source fills its tokens. -/
theorem protect_written {tokens : List Token} (guarded : ∀ token ∈ tokens, Guarded token)
    (placeholder : String) {trailing : String} (plain : '<' ∉ trailing.toList) :
    protect placeholder (String.join (tokens.map Token.source) ++ trailing) =
      String.join ((tokens.map (fill placeholder)).map Token.source) ++ trailing := by
  apply String.toList_injective
  have whole : Replace.replaceFrom TypeExpr.unrecognisedText.toList placeholder.toList 0
      (chars tokens ++ trailing.toList) =
        chars (tokens.map (fill placeholder)) ++ trailing.toList := by
    induction tokens with
    | nil =>
        have rest : Replace.replaceFrom TypeExpr.unrecognisedText.toList placeholder.toList 0
            (trailing.toList ++ []) = trailing.toList ++ [] :=
          Replace.replaceFrom_append_of_not_mem rfl plain []
        simpa [chars, Replace.replaceFrom] using rest
    | cons token tokens ih =>
        have later := ih fun other member => guarded other (List.mem_cons_of_mem _ member)
        rw [chars_cons, List.append_assoc,
          replaceFrom_guarded (guarded token List.mem_cons_self), later]
        simp [chars_cons]
  rw [protect, replaceAll, String.toList_ofList, String.toList_append, String.toList_append,
    toList_written, toList_written, whole]

/-- Whether a token is an unrecognised type, or has nothing to do with one or its placeholder. -/
structure Unheld (placeholder : String) (token : Token) : Prop where
  lead : ∀ c ∈ (Gap.textOf token.lead).toList, Identifier.continues c = false
  text : token.text = TypeExpr.unrecognisedText
    ∨ Clear token.text ∧ contains token.text placeholder = false

/-- A token without the placeholder in it is left as it is. -/
theorem replaceFrom_unheld {n : Nat} {token : Token}
    (blank : ∀ c ∈ (Gap.textOf token.lead).toList, Identifier.continues c = false)
    (absent : contains token.text (candidate n) = false) {rest : List Char}
    (stands : Stands token rest) :
    Replace.replaceFrom (candidate n).toList TypeExpr.unrecognisedText.toList 0
        (token.source.toList ++ rest) =
      token.source.toList
        ++ Replace.replaceFrom (candidate n).toList TypeExpr.unrecognisedText.toList 0 rest := by
  obtain ⟨more, start⟩ := candidate_start n
  have lead : '_' ∉ (Gap.textOf token.lead).toList := fun member =>
    absurd (blank '_' member) (by decide)
  have source : token.source.toList ++ rest =
      (Gap.textOf token.lead).toList ++ (token.text.toList ++ rest) := by
    simp [Token.source]
  have apart : (∀ c ∈ token.text.toList.getLast?, ¬ isPlain c)
      ∨ ∀ c ∈ rest.head?, ¬ isPlain c := by
    refine stands.apart.imp ?_ ?_ <;> intro ends c member plain <;>
      exact absurd (continues_of_isPlain plain) (by simp [ends c member])
  rw [source, Replace.replaceFrom_append_of_not_mem start lead,
    Replace.replaceFrom_append_of_apart (fun c => candidate_plain) absent apart]
  simp [Token.source]

theorem replaceFrom_filled {n : Nat} {token : Token} (unheld : Unheld (candidate n) token)
    {rest : List Char} (stands : Stands (fill (candidate n) token) rest) :
    Replace.replaceFrom (candidate n).toList TypeExpr.unrecognisedText.toList 0
        ((fill (candidate n) token).source.toList ++ rest) =
      token.source.toList
        ++ Replace.replaceFrom (candidate n).toList TypeExpr.unrecognisedText.toList 0 rest := by
  rcases unheld.text with marked | ⟨clear, absent⟩
  · obtain ⟨more, start⟩ := candidate_start n
    have lead : '_' ∉ (Gap.textOf token.lead).toList := fun member =>
      absurd (unheld.lead '_' member) (by decide)
    have source : (fill (candidate n) token).source.toList ++ rest =
        (Gap.textOf token.lead).toList ++ ((candidate n).toList ++ rest) := by
      simp [fill, marked, protect_marker, Token.source]
    rw [source, Replace.replaceFrom_append_of_not_mem start lead,
      Replace.replaceFrom_pattern (by simp [start])]
    simp [Token.source, marked]
  · have same : fill (candidate n) token = token := by
      rw [fill, protect_clear clear]
    rw [same] at stands ⊢
    exact replaceFrom_unheld unheld.lead absent stands

theorem replaceFrom_trailing {n : Nat} {trailing : String}
    (plain : ∀ c ∈ trailing.toList, Identifier.continues c = false) :
    Replace.replaceFrom (candidate n).toList TypeExpr.unrecognisedText.toList 0 trailing.toList =
      trailing.toList := by
  obtain ⟨more, start⟩ := candidate_start n
  have absent : '_' ∉ trailing.toList := fun member => absurd (plain '_' member) (by decide)
  have rest : Replace.replaceFrom (candidate n).toList TypeExpr.unrecognisedText.toList 0
      (trailing.toList ++ []) = trailing.toList ++ [] :=
    Replace.replaceFrom_append_of_not_mem start absent []
  simpa [Replace.replaceFrom] using rest

/-- What holds the placeholder in none of its tokens is left as it is. -/
theorem restore_unheld {n : Nat} {tokens : List Token} {trailing : String} (blank : Blank trailing)
    (lexes : Lexes tokens trailing.toList)
    (absent : ∀ token ∈ tokens, contains token.text (candidate n) = false) :
    restore (candidate n) (String.join (tokens.map Token.source) ++ trailing) =
      String.join (tokens.map Token.source) ++ trailing := by
  have plain {space : String} (blank : Blank space) :
      ∀ c ∈ space.toList, Identifier.continues c = false := fun c found =>
    not_continues_of_isSpace (List.all_eq_true.1 blank c found)
  have whole : Replace.replaceFrom (candidate n).toList TypeExpr.unrecognisedText.toList 0
      (chars tokens ++ trailing.toList) = chars tokens ++ trailing.toList := by
    induction tokens with
    | nil => exact replaceFrom_trailing (plain blank)
    | cons token tokens ih =>
        obtain ⟨stands, later⟩ := lexes
        obtain ⟨space, lead, spaces⟩ := stands.lead
        have rest := ih later fun other member => absent other (List.mem_cons_of_mem _ member)
        have white : ∀ c ∈ (Gap.textOf token.lead).toList, Identifier.continues c = false := by
          rw [lead, gap_text]
          exact plain spaces
        rw [chars_cons, List.append_assoc,
          replaceFrom_unheld white (absent token List.mem_cons_self) stands, rest]
  rw [restore, replaceAll, String.toList_append, toList_written, whole, ← toList_written,
    ← String.toList_append, String.ofList_toList]

/-- Restoring a source with filled tokens gives the source with the tokens as they were. -/
theorem restore_written {n : Nat} {tokens : List Token}
    (unheld : ∀ token ∈ tokens, Unheld (candidate n) token) {trailing : String}
    (plain : ∀ c ∈ trailing.toList, Identifier.continues c = false)
    (lexes : Lexes (tokens.map (fill (candidate n))) trailing.toList) :
    restore (candidate n)
        (String.join ((tokens.map (fill (candidate n))).map Token.source) ++ trailing) =
      String.join (tokens.map Token.source) ++ trailing := by
  apply String.toList_injective
  have whole : Replace.replaceFrom (candidate n).toList TypeExpr.unrecognisedText.toList 0
      (chars (tokens.map (fill (candidate n))) ++ trailing.toList) =
        chars tokens ++ trailing.toList := by
    induction tokens with
    | nil => exact replaceFrom_trailing plain
    | cons token tokens ih =>
        obtain ⟨stands, later⟩ := lexes
        have rest := ih (fun other member => unheld other (List.mem_cons_of_mem _ member)) later
        rw [List.map_cons, chars_cons, List.append_assoc,
          replaceFrom_filled (unheld token List.mem_cons_self) stands, rest]
        simp [chars_cons]
  rw [restore, replaceAll, String.toList_ofList, String.toList_append, String.toList_append,
    toList_written, toList_written, whole]

/-! Trees with the placeholder in them. -/

section Trees

mutual

def fillTree (placeholder : String) : Tree → Tree
  | .leaf kind role token => .leaf kind role (fill placeholder token)
  | .node kind role children => .node kind role (fillTrees placeholder children)

def fillTrees (placeholder : String) : List Tree → List Tree
  | [] => []
  | tree :: rest => fillTree placeholder tree :: fillTrees placeholder rest

end

variable (placeholder : String)

@[simp] theorem fillTrees_eq_map (trees : List Tree) :
    fillTrees placeholder trees = trees.map (fillTree placeholder) := by
  induction trees with
  | nil => simp [fillTrees]
  | cons tree rest ih => simp [fillTrees, ih]

@[simp] theorem fillTree_node (kind : Kind) (role : Role) (children : List Tree) :
    fillTree placeholder (.node kind role children) =
      .node kind role (children.map (fillTree placeholder)) := by
  simp [fillTree]

mutual

theorem tokens_fillTree (tree : Tree) :
    (fillTree placeholder tree).tokens = tree.tokens.map (fill placeholder) := by
  match tree with
  | .leaf kind role token => simp [fillTree]
  | .node kind role children =>
      have inside := tokens_fillTrees children
      simpa using inside

theorem tokens_fillTrees (trees : List Tree) :
    Tree.tokensOf (trees.map (fillTree placeholder)) =
      (Tree.tokensOf trees).map (fill placeholder) := by
  match trees with
  | [] => rfl
  | tree :: rest => simp [tokens_fillTree tree, tokens_fillTrees rest]

end

@[simp] theorem fill_token {text : String} (clear : Clear text) (space : String)
    (lexeme : Lexeme) : fill placeholder (token space lexeme text) = token space lexeme text := by
  simp [fill, protect_clear clear]
  rfl

@[simp] theorem fillTree_mark {text : String} (clear : Clear text) (space : String) :
    fillTree placeholder (mark space text) = mark space text := by
  simp [fillTree, mark, clear]

@[simp] theorem fillTree_keyword {text : String} (clear : Clear text)
    (space : String) : fillTree placeholder (keyword space text) = keyword space text := by
  simp [fillTree, keyword, clear]

@[simp] theorem fillTree_name {text : String} (clear : Clear text) (kind : Kind)
    (role : Role) (space : String) :
    fillTree placeholder (name kind role space text) = name kind role space text := by
  simp [fillTree, name, clear]

/-- Whether no name and no length in a type can be mistaken for an unrecognised type. -/
def TypeClear : TypeExpr → Prop
  | .named text => Clear text
  | .qualified package text => Clear package ∧ Clear text
  | .pointer inner => TypeClear inner
  | .array length element => (∀ text ∈ length, Clear text) ∧ TypeClear element
  | .unrecognised => True

theorem fillTree_type {expr : TypeExpr} (clear : TypeClear expr) (role : Role) (space : String) :
    fillTree placeholder (type role space expr) = type role space (expr.fill placeholder) := by
  induction expr generalizing role space with
  | named text =>
      have clear : Clear text := clear
      simp [type, TypeExpr.fill, clear]
  | qualified package text =>
      simp [type, TypeExpr.fill, clear.1, clear.2]
  | pointer inner ih => simp [type, TypeExpr.fill, ih clear]
  | array length element ih =>
      cases length with
      | none => simp [type, TypeExpr.fill, ih clear.2]
      | some text =>
          have other : Clear text := clear.1 text rfl
          simp [type, TypeExpr.fill, ih clear.2, Written.length, fillTree, other]
  | unrecognised =>
      simp [type, TypeExpr.fill, name, fillTree, fill, token, protect_marker]

def Slot.fill (slot : Slot) : Slot := ⟨slot.space, slot.names, slot.type.fill placeholder⟩

structure Slot.Clear (slot : Slot) : Prop where
  space : Written.Clear slot.space
  names : ∀ text ∈ slot.names, Written.Clear text
  type : TypeClear slot.type

theorem fillTree_names (kind : String → Kind) (role : Role) {names : List String}
    (clear : ∀ text ∈ names, Clear text) :
    (names.flatMap fun text => [mark "" ",", name (kind text) role " " text]).map
        (fillTree placeholder) =
      names.flatMap fun text => [mark "" ",", name (kind text) role " " text] := by
  rw [List.map_flatMap]
  refine List.flatMap_congr fun text member => ?_
  simp [clear text member]

theorem fillTree_slot {slot : Slot} (clear : slot.Clear) :
    fillTree placeholder slot.tree = (slot.fill placeholder).tree := by
  obtain ⟨space, names, expr⟩ := slot
  have typed (space : String) := fillTree_type placeholder clear.type .type space
  cases names with
  | nil => simp [Slot.tree, Slot.trees, Slot.fill, typed]
  | cons first names =>
      have start := clear.names first List.mem_cons_self
      have later := fillTree_names placeholder (fun _ => .identifier) .name fun text member =>
        clear.names text (List.mem_cons_of_mem _ member)
      simp [Slot.tree, Slot.trees, Slot.fill, typed, start, later]

theorem fillTree_parameters (role : Role) (space : String) {slots : List Slot}
    (clear : ∀ slot ∈ slots, slot.Clear) :
    fillTree placeholder (parameters role space slots) =
      parameters role space (slots.map (Slot.fill placeholder)) := by
  have listed : (commas (slots.map Slot.tree)).map (fillTree placeholder) =
      commas ((slots.map (Slot.fill placeholder)).map Slot.tree) := by
    cases slots with
    | nil => rfl
    | cons slot slots =>
        have start := fillTree_slot placeholder (clear slot List.mem_cons_self)
        simp only [commas, List.map_cons, List.map_flatMap, List.flatMap_map, start]
        refine congrArg _ (List.flatMap_congr fun other member => ?_)
        have same := fillTree_slot placeholder (clear other (List.mem_cons_of_mem _ member))
        simp [same]
  simp [parameters, listed]

def Result.fill : Result → Result
  | none => none
  | lone space type => lone space (type.fill placeholder)
  | list space slots => list space (slots.map (Slot.fill placeholder))

def Result.Clear : Result → Prop
  | none => True
  | lone space type => Written.Clear space ∧ TypeClear type
  | list space slots => Written.Clear space ∧ ∀ slot ∈ slots, slot.Clear

def Signature.fill (signature : Signature) : Signature :=
  ⟨signature.args.map (Slot.fill placeholder), signature.result.fill placeholder⟩

structure Signature.Clear (signature : Signature) : Prop where
  args : ∀ slot ∈ signature.args, slot.Clear
  result : signature.result.Clear

theorem fillTree_signature {signature : Signature} (clear : signature.Clear) :
    signature.trees.map (fillTree placeholder) = (signature.fill placeholder).trees := by
  have args := fillTree_parameters placeholder .parameters "" clear.args
  have result := clear.result
  cases same : signature.result with
  | none => simp [Signature.trees, Signature.fill, same, Result.trees, Result.fill, args]
  | lone space expr =>
      rw [same] at result
      have typed := fillTree_type placeholder result.2 .result space
      simp [Signature.trees, Signature.fill, same, Result.trees, Result.fill, args, typed]
  | list space slots =>
      rw [same] at result
      have listed := fillTree_parameters placeholder .result space result.2
      simp [Signature.trees, Signature.fill, same, Result.trees, Result.fill, args, listed]

def Field.fill (field : Field) : Field :=
  { field with signature := field.signature.fill placeholder }

structure Field.Clear (field : Field) : Prop where
  space : Written.Clear field.space
  name : Written.Clear field.name
  typeSpace : Written.Clear field.typeSpace
  signature : field.signature.Clear

theorem fillTree_field {field : Field} (clear : field.Clear) :
    fillTree placeholder field.tree = (field.fill placeholder).tree := by
  have inside := fillTree_signature placeholder clear.signature
  simp [Field.tree, Field.fill, functionType, clear.name, inside]

theorem fillTree_structType (before after : String) {fields : List Field}
    (clear : ∀ field ∈ fields, field.Clear) :
    fillTree placeholder (structType before fields after) =
      structType before (fields.map (Field.fill placeholder)) after := by
  have each : (fields.map Field.tree).map (fillTree placeholder) =
      (fields.map (Field.fill placeholder)).map Field.tree := by
    rw [List.map_map, List.map_map]
    refine List.map_congr_left fun field member => ?_
    exact fillTree_field placeholder (clear field member)
  simp only [structType, fillTree_node, List.map_cons, List.map_append, List.map_nil, each]
  simp

theorem fillTree_arguments {names : List String} (clear : ∀ text ∈ names, Clear text) :
    (arguments names).map (fillTree placeholder) = arguments names := by
  cases names with
  | nil => rfl
  | cons first names =>
      have start := clear first List.mem_cons_self
      have later := fillTree_names placeholder operandKind .plain fun text member =>
        clear text (List.mem_cons_of_mem _ member)
      simp [arguments, start, later]

theorem fillTree_block (role : Role) (space : String) (returns : Bool) {receiver field : String}
    {args : List String} (clear : Clear receiver) (named : Clear field)
    (handed : ∀ text ∈ args, Clear text) :
    fillTree placeholder (block role space returns receiver field args) =
      block role space returns receiver field args := by
  have listed := fillTree_arguments placeholder handed
  cases returns <;> simp [block, statement, call, clear, named, listed]

def MockMethod.fill (method : MockMethod) : MockMethod :=
  { method with signature := method.signature.fill placeholder }

structure MockMethod.Clear (method : MockMethod) : Prop where
  space : Written.Clear method.space
  receiver : Written.Clear method.receiver
  owner : Written.Clear method.owner
  name : Written.Clear method.name
  signature : method.signature.Clear
  field : Written.Clear method.field
  bodySpace : Written.Clear method.bodySpace
  args : ∀ text ∈ method.args, Written.Clear text

theorem MockMethod.Clear.self {method : MockMethod} (clear : method.Clear) :
    ∀ slot ∈ [Slot.mk "" [method.receiver] (.named method.owner)], slot.Clear := by
  intro slot member
  obtain rfl := List.mem_singleton.1 member
  exact ⟨clear_spaces.1, by simpa using clear.receiver, clear.owner⟩

theorem fillTree_mockMethod {method : MockMethod} (clear : method.Clear) :
    fillTree placeholder method.tree = (method.fill placeholder).tree := by
  have receiver := fillTree_parameters placeholder .receiver " " clear.self
  have inside := fillTree_signature placeholder clear.signature
  have body := fillTree_block placeholder .body method.bodySpace method.returns clear.receiver
    clear.field clear.args
  simp [MockMethod.tree, MockMethod.fill, receiver, inside, body, clear.name, Slot.fill,
    TypeExpr.fill]

def ImportLine.fill (line : ImportLine) : ImportLine :=
  { line with path := Placeholder.protect placeholder line.path }

/-- Quotes are no part of an unrecognised type. -/
theorem protect_quoted (path : String) :
    Placeholder.protect placeholder (quoted path) =
      quoted (Placeholder.protect placeholder path) := by
  have quote : '\x22' ∉ TypeExpr.unrecognisedText.toList := by decide
  have opens : ∀ c ∈ ['\x22'].getLast?, c ∉ TypeExpr.unrecognisedText.toList := by
    simpa using quote
  have closes : ∀ c ∈ ['\x22'].head?, c ∉ TypeExpr.unrecognisedText.toList := by
    simpa using quote
  have alone : Replace.replaceFrom TypeExpr.unrecognisedText.toList placeholder.toList 0
      ['\x22'] = ['\x22'] := by
    simp [Replace.replaceFrom, marker_start]
  have text : (quoted path).toList = ['\x22'] ++ (path.toList ++ ['\x22']) := by
    simp [quoted]
  apply String.toList_injective
  rw [Placeholder.protect, replaceAll, String.toList_ofList, text,
    Replace.replaceFrom_split (.inl opens) (Nat.zero_le _),
    Replace.replaceFrom_split (.inr closes) (Nat.zero_le _), alone]
  simp [quoted, Placeholder.protect, replaceAll]

theorem fillTree_importLine {line : ImportLine} (clear : Clear line.label) :
    fillTree placeholder line.tree = (line.fill placeholder).tree := by
  have path (space : String) : fillTree placeholder (line.path? space) =
      (line.fill placeholder).path? space := by
    simp [ImportLine.path?, ImportLine.fill, fillTree, fill, token, protect_quoted]
  have same : (line.fill placeholder).label = line.label ∧
      (line.fill placeholder).space = line.space := ⟨rfl, rfl⟩
  simp only [ImportLine.tree, ImportLine.trees, fillTree_node, same]
  split
  · simp [path]
  · split
    · simp [path, fillTree]
    · split
      · have blank : Clear "_" := by decide
        simp [path, blank]
      · simp [path, clear]

theorem fillTree_imports (space after : String) {lines : List ImportLine}
    (clear : ∀ line ∈ lines, Clear line.label) :
    fillTree placeholder (imports space lines after) =
      imports space (lines.map (ImportLine.fill placeholder)) after := by
  have each : (lines.map ImportLine.tree).map (fillTree placeholder) =
      (lines.map (ImportLine.fill placeholder)).map ImportLine.tree := by
    rw [List.map_map, List.map_map]
    refine List.map_congr_left fun line member => ?_
    exact fillTree_importLine placeholder (clear line member)
  simp only [imports, fillTree_node, List.map_cons, List.map_append, List.map_nil, each]
  simp

end Trees

end Written

end InterfaceMocks
