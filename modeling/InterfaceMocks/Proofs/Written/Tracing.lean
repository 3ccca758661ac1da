import InterfaceMocks.Proofs.Written.Filling

/-!
Where the tokens of written constructs come from: each is free of unrecognised types, or is such a
type, or is the path of an import.
-/

namespace InterfaceMocks.Written

open InterfaceMocks.Syntax

/-- Whether a token is free of unrecognised types, is such a type, or is one of the paths. -/
structure Traced (paths : List String) (token : Token) : Prop where
  lead : Clear (Gap.textOf token.lead)
  text : token.text = TypeExpr.unrecognisedText ∨ Clear token.text
    ∨ ∃ path ∈ paths, token.text = quoted path

theorem Traced.clear {paths : List String} {token : Token} (traced : Traced paths token)
    (plain : ∀ path ∈ paths, Clear path) :
    token.text = TypeExpr.unrecognisedText ∨ Clear token.text := by
  rcases traced.text with marked | clear | ⟨path, among, same⟩
  · exact .inl marked
  · exact .inr clear
  · have clear := plain path among
    refine .inr (same ▸ ?_)
    simpa [Clear, quoted] using clear

section Traced

variable (paths : List String)

def TreeTraced (paths : List String) (tree : Tree) : Prop := ∀ token ∈ tree.tokens, Traced paths token

theorem tracedOf_iff (trees : List Tree) :
    (∀ token ∈ Tree.tokensOf trees, Traced paths token) ↔
      ∀ tree ∈ trees, TreeTraced paths tree := by
  induction trees with
  | nil => simp
  | cons tree rest ih => simp [or_imp, forall_and, ih, TreeTraced]

@[simp] theorem treeTraced_node (kind : Kind) (role : Role) (children : List Tree) :
    TreeTraced paths (.node kind role children) ↔ ∀ child ∈ children, TreeTraced paths child := by
  rw [TreeTraced, Tree.tokens, tracedOf_iff]

theorem traced_token {space text : String} (clear : Clear space)
    (guarded : text = TypeExpr.unrecognisedText ∨ Clear text) (lexeme : Lexeme) :
    Traced paths (token space lexeme text) where
  lead := by simpa [token, gap_text] using clear
  text := guarded.imp_right .inl

@[simp] theorem treeTraced_mark {space text : String} (clear : Clear space) (plain : Clear text) :
    TreeTraced paths (mark space text) := by
  simpa [TreeTraced] using traced_token paths clear (.inr plain) .mark

@[simp] theorem treeTraced_keyword {space text : String} (clear : Clear space)
    (plain : Clear text) : TreeTraced paths (keyword space text) := by
  simpa [TreeTraced] using traced_token paths clear (.inr plain) .word

@[simp] theorem treeTraced_name {space text : String} (clear : Clear space) (plain : Clear text)
    (kind : Kind) (role : Role) : TreeTraced paths (name kind role space text) := by
  simpa [TreeTraced] using traced_token paths clear (.inr plain) .word

theorem treeTraced_type {expr : TypeExpr} (clear : TypeClear expr) (role : Role) {space : String}
    (blank : Clear space) : TreeTraced paths (type role space expr) := by
  induction expr generalizing role space with
  | named text =>
      have clear : Clear text := clear
      simp [type, blank, clear]
  | qualified package text => simp [type, blank, clear.1, clear.2]
  | pointer inner ih => simp [type, blank, ih clear]
  | array length element ih =>
      cases length with
      | none => simp [type, blank, ih clear.2]
      | some text =>
          have traced := traced_token paths clear_spaces.1 (.inr (clear.1 text rfl)) (classOf text)
          have leaf : TreeTraced paths (Written.length text) := by
            simpa [TreeTraced, Written.length] using traced
          simp [type, blank, ih clear.2, leaf]
  | unrecognised =>
      simpa [TreeTraced, type] using traced_token paths blank (.inl rfl) .word

theorem treeTraced_names (kind : String → Kind) (role : Role) {names : List String}
    (clear : ∀ text ∈ names, Clear text) :
    ∀ tree ∈ names.flatMap fun text => [mark "" ",", name (kind text) role " " text],
      TreeTraced paths tree := by
  intro tree member
  simp only [List.mem_flatMap, List.mem_cons, List.not_mem_nil, or_false] at member
  obtain ⟨text, found, rfl | rfl⟩ := member
  · simp
  · simp [clear text found]

theorem treeTraced_slot {slot : Slot} (clear : slot.Clear) : TreeTraced paths slot.tree := by
  obtain ⟨space, names, expr⟩ := slot
  obtain ⟨blank, named, typed⟩ := clear
  cases names with
  | nil => simpa [Slot.tree, Slot.trees] using treeTraced_type paths typed .type blank
  | cons first names =>
      have start := named first List.mem_cons_self
      have ends := treeTraced_type paths typed .type clear_spaces.2.1
      have later := treeTraced_names paths (fun _ => .identifier) .name fun text member =>
        named text (List.mem_cons_of_mem _ member)
      rw [Slot.tree, treeTraced_node, Slot.trees]
      intro tree member
      rcases List.mem_append.1 member with among | last
      · rcases List.mem_cons.1 among with rfl | among
        · simp [blank, start]
        · exact later tree among
      · exact List.mem_singleton.1 last ▸ ends

theorem treeTraced_commas {trees : List Tree} (each : ∀ tree ∈ trees, TreeTraced paths tree) :
    ∀ tree ∈ commas trees, TreeTraced paths tree := by
  cases trees with
  | nil => exact each
  | cons first rest =>
      intro tree member
      simp only [commas, List.mem_cons, List.mem_flatMap, List.not_mem_nil, or_false] at member
      rcases member with rfl | ⟨other, found, rfl | rfl⟩
      · exact each _ List.mem_cons_self
      · simp
      · exact each _ (List.mem_cons_of_mem _ found)

theorem treeTraced_parameters (role : Role) {space : String} (blank : Clear space)
    {slots : List Slot} (clear : ∀ slot ∈ slots, slot.Clear) :
    TreeTraced paths (parameters role space slots) := by
  have listed : ∀ tree ∈ commas (slots.map Slot.tree), TreeTraced paths tree := by
    refine treeTraced_commas paths fun tree member => ?_
    obtain ⟨slot, found, rfl⟩ := List.mem_map.1 member
    exact treeTraced_slot paths (clear slot found)
  simpa [parameters, or_imp, forall_and, blank] using listed

theorem treeTraced_signature {signature : Signature} (clear : signature.Clear) :
    ∀ tree ∈ signature.trees, TreeTraced paths tree := by
  have args := treeTraced_parameters paths .parameters clear_spaces.1 clear.args
  have result := clear.result
  cases same : signature.result with
  | none => simpa [Signature.trees, same, Result.trees] using args
  | lone space expr =>
      rw [same] at result
      have typed := treeTraced_type paths result.2 .result result.1
      simp [Signature.trees, same, Result.trees, args, typed]
  | list space slots =>
      rw [same] at result
      have listed := treeTraced_parameters paths .result result.1 result.2
      simp [Signature.trees, same, Result.trees, args, listed]

theorem treeTraced_field {field : Field} (clear : field.Clear) : TreeTraced paths field.tree := by
  have inside := treeTraced_signature paths clear.signature
  simpa [Field.tree, functionType, clear.space, clear.name, clear.typeSpace] using inside

theorem treeTraced_structType {before after : String} (open' : Clear before)
    (close : Clear after) {fields : List Field} (clear : ∀ field ∈ fields, field.Clear) :
    TreeTraced paths (structType before fields after) := by
  have each : ∀ field ∈ fields, TreeTraced paths field.tree := fun field member =>
    treeTraced_field paths (clear field member)
  simpa [structType, or_imp, forall_and, open', close] using each

theorem treeTraced_block (role : Role) {space : String} (blank : Clear space) (returns : Bool)
    {receiver field : String} {args : List String} (clear : Clear receiver) (named : Clear field)
    (handed : ∀ text ∈ args, Clear text) :
    TreeTraced paths (block role space returns receiver field args) := by
  have listed : ∀ tree ∈ arguments args, TreeTraced paths tree := by
    cases args with
    | nil => simp [arguments]
    | cons first args =>
        have start := handed first List.mem_cons_self
        have later := treeTraced_names paths operandKind .plain fun text member =>
          handed text (List.mem_cons_of_mem _ member)
        intro tree member
        rcases List.mem_cons.1 member with rfl | among
        · simp [start]
        · exact later tree among
  cases returns with
  | false =>
      simpa [block, statement, call, or_imp, forall_and, blank, clear, named] using listed
  | true =>
      simpa [block, statement, call, or_imp, forall_and, blank, clear, named] using listed

theorem treeTraced_mockMethod {method : MockMethod} (clear : method.Clear) :
    TreeTraced paths method.tree := by
  have receiver := treeTraced_parameters paths .receiver clear_spaces.2.1 clear.self
  have inside := treeTraced_signature paths clear.signature
  have body := treeTraced_block paths .body clear.bodySpace method.returns clear.receiver clear.field
    clear.args
  simpa [MockMethod.tree, or_imp, forall_and, receiver, body, clear.space, clear.name] using inside

theorem treeTraced_importLine {line : ImportLine} (blank : Clear line.space)
    (clear : Clear line.label) (among : line.path ∈ paths) : TreeTraced paths line.tree := by
  have path {space : String} (blank : Clear space) : TreeTraced paths (line.path? space) := by
    have traced : Traced paths (token space .quoted (quoted line.path)) :=
      ⟨by simpa [token, gap_text] using blank, .inr (.inr ⟨_, among, rfl⟩)⟩
    simpa [TreeTraced, ImportLine.path?] using traced
  simp only [ImportLine.tree, ImportLine.trees, treeTraced_node]
  split
  · simpa using path blank
  · split
    · have dot : TreeTraced paths (.leaf .dotName .name (token line.space .mark ".")) := by
        simpa [TreeTraced] using traced_token paths blank (.inr clear_marks.2.2.2.2.2.2.2.2) .mark
      simp [dot, path clear_spaces.2.1]
    · split
      · have underscore : Clear "_" := by decide
        simp [path clear_spaces.2.1, blank, underscore]
      · simp [path clear_spaces.2.1, blank, clear]

theorem treeTraced_imports {space after : String} (blank : Clear space) (close : Clear after)
    {lines : List ImportLine} (clear : ∀ line ∈ lines, Clear line.space ∧ Clear line.label)
    (among : ∀ line ∈ lines, line.path ∈ paths) :
    TreeTraced paths (imports space lines after) := by
  have each : ∀ line ∈ lines, TreeTraced paths line.tree := fun line member =>
    treeTraced_importLine paths (clear line member).1 (clear line member).2 (among line member)
  simpa [imports, or_imp, forall_and, blank, close] using each

end Traced

end InterfaceMocks.Written
