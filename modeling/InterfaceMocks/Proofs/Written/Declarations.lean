import InterfaceMocks.Proofs.Written.Calls

/-!
Declarations are read back, and whole sources made of them. Where items have a line each, the line
feed before an item ends the one before it.
-/

namespace InterfaceMocks.Written

open InterfaceMocks.Syntax
open InterfaceMocks.Grammar

def StartsLine (tokens : List Token) : Prop := Cursor.after tokens true = ⟨tokens, true⟩

section Lines

variable {ends : Bool} {held : List Tree} {rest : List Token}

theorem startsLine_token {space : String} (broken : breaks space = true) (lexeme : Lexeme)
    (text : String) : StartsLine (token space lexeme text :: rest) := by
  simp [StartsLine, broken]

theorem StartsLine.typeEnds (starts : StartsLine rest) : TypeEnds true rest := by
  intro next more same
  subst same
  have broken := congrArg Cursor.broken starts
  simp only [Cursor.after, Bool.true_and, List.head?_cons, Option.map_some, Option.getD_some]
    at broken
  exact .inl ⟨rfl, broken⟩

/-- An item of the form is read as this tree, up to the end of its line. -/
structure LineReads (item : Form) (tree : Tree) : Prop where
  starts : ∀ tail, StartsLine (tree.tokens ++ tail)
  reads : ∀ tail ends held, StartsLine tail →
    reading rules item ⟨true, ends, held⟩ ⟨tree.tokens ++ tail, false⟩ = .done [tree] ⟨tail, true⟩

theorem startsLine_items {item : Form} {trees : List Tree}
    (lines : ∀ tree ∈ trees, LineReads item tree) (closed : StartsLine rest) :
    StartsLine (Tree.tokensOf trees ++ rest) := by
  cases trees with
  | nil => exact closed
  | cons tree trees =>
      have starts := (lines tree List.mem_cons_self).starts (Tree.tokensOf trees ++ rest)
      simpa using starts

theorem reading_moreLines {item : Form} {trees : List Tree}
    (lines : ∀ tree ∈ trees, LineReads item tree) (closed : StartsLine rest)
    (refused : ∀ setting, reading rules item setting ⟨rest, false⟩ = .mismatch) :
    reading rules (.many (.seq .terminator item)) ⟨true, ends, held⟩
        ⟨Tree.tokensOf trees ++ rest, true⟩ =
      .done trees ⟨rest, true⟩ := by
  induction trees with
  | nil =>
      rw [reading_many]
      simp [Cursor.terminator, refused]
  | cons tree trees ih =>
      have later (other : Tree) (member : other ∈ trees) : LineReads item other :=
        lines other (List.mem_cons_of_mem _ member)
      have here := (lines tree List.mem_cons_self).reads _ ends held (startsLine_items later closed)
      rw [reading_many]
      simp [Cursor.terminator, here, ih later]

/-- Items with a line each, before a token that closes them. -/
theorem reading_lines {name : Rule} {trees : List Tree}
    (lines : ∀ tree ∈ trees, LineReads (.rule name) tree) (closed : trees ≠ [] → StartsLine rest)
    (refused : ∀ setting, reading rules (.rule name) setting ⟨rest, false⟩ = .mismatch) :
    reading rules (Types.terminated (.rule name)) ⟨false, ends, held⟩
        ⟨Tree.tokensOf trees ++ rest, false⟩ =
      .done trees ⟨rest, false⟩ := by
  cases trees with
  | nil => simp [Types.terminated, refused]
  | cons tree trees =>
      have closed := closed (by simp)
      have later (other : Tree) (member : other ∈ trees) : LineReads (.rule name) other :=
        lines other (List.mem_cons_of_mem _ member)
      have here := (lines tree List.mem_cons_self).reads _ ends held (startsLine_items later closed)
      simp [Types.terminated, here, reading_moreLines later closed refused, Cursor.terminator]

/-- Items with a line each, up to the bracket that closes their list. -/
theorem reading_listed {α : Type} {name : Rule} {item : α → Tree} {items : List α}
    {bracket after : String} (lines : ∀ a ∈ items, LineReads (.rule name) (item a))
    (closed : items ≠ [] → breaks after = true) (closer : bracket ∈ closers) :
    reading rules (Types.terminated (.rule name)) ⟨false, ends, held⟩
        ⟨Tree.tokensOf (items.map item) ++ token after .mark bracket :: rest, false⟩ =
      .done (items.map item) ⟨token after .mark bracket :: rest, false⟩ := by
  have stops : (⟨token after .mark bracket :: rest, false⟩ : Cursor).isClosed :=
    .inr ⟨_, _, rfl, rfl, closer⟩
  refine reading_lines (fun tree member => ?_) (fun some => ?_)
    (reading_closed stops (Gram.opens_rule _))
  · obtain ⟨a, among, rfl⟩ := List.mem_map.1 member
    exact lines a among
  · exact startsLine_token (closed (by simpa using some)) _ _

@[simp] theorem terminated_nullable (item : Form) : (Types.terminated item).nullable = true := by
  simp [Types.terminated]

@[simp] theorem terminated_flat {name : Rule} :
    (Types.terminated (.rule name)).startsWithTerminator = false := by
  simp [Types.terminated]

end Lines

/-! Structs. -/

structure Field.Readable (field : Field) : Prop where
  line : breaks field.space = true
  flat : breaks field.typeSpace = false
  signature : field.signature.Readable

theorem Field.lineReads {field : Field} (readable : field.Readable) :
    LineReads (.rule .field) field.tree where
  starts tail := by
    simp [Field.tree, StartsLine, readable.line]
  reads tail ends held starts := by
    have after : Cursor.after tail true = ⟨tail, true⟩ := starts
    have start : (functionType .type field.typeSpace field.signature).tokens ++ tail =
        token field.typeSpace .word "func" :: (Tree.tokensOf field.signature.trees ++ tail) := by
      simp [functionType]
    have typed (ends : Bool) (held : List Tree) :
        reading rules (.rule .type) ⟨true, ends, held⟩
            ⟨(functionType .type field.typeSpace field.signature).tokens ++ tail, false⟩ =
          .done [functionType .plain field.typeSpace field.signature] (Cursor.after tail true) :=
      reading_functionType readable.signature .type field.typeSpace starts.typeEnds
    rw [start, after] at typed
    have alone (ends : Bool) (held : List Tree) (tail : List Token) : reading rules
        (.many (.seq (.leaf .mark (.mark ",")) (.as .name (.leaf .fieldIdentifier (.name [])))))
        ⟨false, ends, held⟩ ⟨token field.typeSpace .word "func" :: tail, false⟩ =
          .done [] ⟨token field.typeSpace .word "func" :: tail, false⟩ := by
      rw [reading_many]
      simp
    have noArguments (follows ends : Bool) (held : List Tree) (tail : List Token) :
        reading rules (.rule .typeArguments) ⟨follows, ends, held⟩
          ⟨token field.typeSpace .word "func" :: tail, false⟩ = .mismatch := by
      simp [reading_rule, rules, Types.typeArguments]
    have tokens : field.tree.tokens ++ tail = token field.space .word field.name ::
        token field.typeSpace .word "func" :: (Tree.tokensOf field.signature.trees ++ tail) := by
      simp [Field.tree, functionType]
    rw [tokens, reading_rule, rules, Types.field]
    simp [Types.embeddedGeneric, Types.genericName, Types.namedField, Types.tag, noArguments, alone,
      typed, readable.flat]
    simp [functionType, Field.tree, Written.name]

section Specs

variable {follows ends : Bool} {held : List Tree} {rest : List Token}

/-- The fields of a struct, which need a line end after them if there are any. -/
structure StructReadable (fields : List Field) (after : String) : Prop where
  each : ∀ field ∈ fields, field.Readable
  closed : fields ≠ [] → breaks after = true

theorem reading_structType {fields : List Field} {after : String}
    (readable : StructReadable fields after) (before : String) :
    reading rules (.rule .type) ⟨follows, ends, held⟩
        ⟨(structType before fields after).tokens ++ rest, false⟩ =
      .done [(structType before fields after).withRole .plain] (Cursor.after rest follows) := by
  have listed (ends : Bool) (held : List Tree) :
      reading rules (Types.terminated (.rule .field)) ⟨false, ends, held⟩
          ⟨Tree.tokensOf (fields.map Field.tree) ++ token after .mark "\x7d" :: rest, false⟩ =
        .done (fields.map Field.tree) ⟨token after .mark "\x7d" :: rest, false⟩ :=
    reading_listed (fun field among => Field.lineReads (readable.each field among))
      readable.closed (by simp [closers])
  rw [reading_rule, rules, Types.type, reading_alt, reading_rule, rules, Types.simpleType]
  simp [structType, tokensOf_append, listed, keyword, mark]

structure Target (target : Tree) (rest : List Token) : Prop where
  role : target.role = .type
  starts : ∃ opening more, target.tokens = token " " .word opening :: more
  reads : ∀ ends held, reading rules (.rule .type) ⟨true, ends, held⟩
    ⟨target.tokens ++ rest, false⟩ = .done [target.withRole .plain] (Cursor.after rest true)

theorem reading_typeSpec {target : Tree} (readable : Target target rest) (text : String) :
    reading rules (.rule (.typeSpec false)) ⟨true, ends, held⟩
        ⟨token " " .word text :: (target.tokens ++ rest), false⟩ =
      .done [.node .typeSpec .plain [name .typeIdentifier .name " " text, target]]
        (Cursor.after rest true) := by
  obtain ⟨role, ⟨opening, more, start⟩, reads⟩ := readable
  have again : (target.withRole .plain).withRole .type = target := by
    cases target <;> simp_all [Tree.role]
  rw [start, List.cons_append] at reads ⊢
  rw [reading_rule, rules, Statements.typeSpec]
  simp [Statements.typeAlias, Statements.longConstraint, reads, again, name]

/-- A type declaration is read back at the top of a source. -/
theorem reading_typeDeclaration {target : Tree} (readable : Target target rest)
    (space text : String) :
    reading rules (.rule (.statement .top)) ⟨true, ends, held⟩
        ⟨(typeDeclaration space text target).tokens ++ rest, false⟩ =
      .done [typeDeclaration space text target] (Cursor.after rest true) := by
  have declared (ends : Bool) (held : List Tree) :
      reading rules (.rule .declaration) ⟨true, ends, held⟩
          ⟨(typeDeclaration space text target).tokens ++ rest, false⟩ =
        .done [typeDeclaration space text target] (Cursor.after rest true) := by
    rw [reading_rule, rules, Statements.declaration]
    simp [typeDeclaration, Statements.group, reading_typeSpec readable, keyword]
  have tokens : (typeDeclaration space text target).tokens ++ rest =
      token space .word "type" :: token " " .word text :: (target.tokens ++ rest) := by
    simp [typeDeclaration]
  rw [tokens] at declared ⊢
  rw [reading_rule, rules, Statements.statement]
  simp [Statements.labeled, Statements.label, Place.reserved, statementWords, declared]

/-! Methods of a mock. -/

structure MockMethod.Readable (method : MockMethod) : Prop where
  receiver : ReceiverReadable method.receiver
  owner : method.owner ∉ typeWords
  name : method.name ∉ typeWords
  signature : method.signature.Readable
  args : ∀ text ∈ method.args, text ∉ typeWords

theorem MockMethod.receiverSlot {method : MockMethod} (readable : method.Readable) :
    SlotsReadable [⟨"", [method.receiver], .named method.owner⟩] := by
  refine ⟨⟨?_, ?_, readable.owner⟩, by simp [Slot.isBare], trivial⟩
  · rintro text ⟨⟩
    exact readable.receiver.plain
  · rintro text member rfl
    rw [List.mem_singleton] at member
    exact readable.receiver.plain (member ▸ by simp [typeWords])

theorem MockMethod.tree_tokens (method : MockMethod) (rest : List Token) :
    method.tree.tokens ++ rest = token method.space .word "func" ::
      ((parameters .receiver " " [⟨"", [method.receiver], .named method.owner⟩]).tokens
        ++ token " " .word method.name :: (Tree.tokensOf method.signature.trees
          ++ ((block .body method.bodySpace method.returns method.receiver method.field
            method.args).tokens ++ rest))) := by
  simp [MockMethod.tree, tokensOf_append]

theorem reading_mockMethod {method : MockMethod} (readable : method.Readable) :
    reading rules Statements.methodDeclaration ⟨true, ends, held⟩
        ⟨method.tree.tokens ++ rest, false⟩ =
      .done [method.tree] (Cursor.after rest true) := by
  have ended : TypeEnds true ((block .body method.bodySpace method.returns method.receiver
      method.field method.args).tokens ++ rest) := by
    rintro next more same
    obtain ⟨rfl, -⟩ := List.cons.inj same
    exact .inr ⟨rfl, by simp⟩
  have body : Cursor.after ((block .body method.bodySpace method.returns method.receiver
      method.field method.args).tokens ++ rest) true =
        ⟨(block .body method.bodySpace method.returns method.receiver method.field
          method.args).tokens ++ rest, false⟩ := by
    simp [block]
  rw [MockMethod.tree_tokens]
  simp [Statements.methodDeclaration, Statements.body,
    reading_parameters (MockMethod.receiverSlot readable) .receiver " ", readable.name,
    reading_signature readable.signature ended, body,
    reading_block readable.receiver .body method.returns method.bodySpace method.field readable.args]
  simp [MockMethod.tree, keyword, parameters, block, Written.name]

end Specs

/-! Imports. -/

theorem ImportLine.lineReads {line : ImportLine} (starts : breaks line.space = true) :
    LineReads (.rule .importSpec) line.tree where
  starts tail := by
    simp only [ImportLine.tree, ImportLine.trees, ImportLine.path?]
    split
    · simp [StartsLine, starts]
    · split
      · simp [StartsLine, starts]
      · split <;> simp [StartsLine, starts]
  reads tail ends held started := by
    have after : Cursor.after tail true = ⟨tail, true⟩ := started
    rw [reading_rule, rules, Statements.importSpec]
    by_cases none : line.label = ""
    · simp [ImportLine.tree, ImportLine.trees, ImportLine.path?, Statements.importName, none, after]
    · by_cases dot : line.label = "."
      · simp [ImportLine.tree, ImportLine.trees, ImportLine.path?, Statements.importName, dot, after]
      · by_cases blank : line.label = "_"
        · simp [ImportLine.tree, ImportLine.trees, ImportLine.path?, Statements.importName, blank,
            after, Written.name]
        · simp [ImportLine.tree, ImportLine.trees, ImportLine.path?, Statements.importName, none,
            dot, blank, after, Written.name]

section Top

variable {ends : Bool} {held : List Tree} {rest : List Token}

structure ImportsReadable (lines : List ImportLine) (after : String) : Prop where
  each : ∀ line ∈ lines, breaks line.space = true
  closed : lines ≠ [] → breaks after = true

theorem reading_imports {lines : List ImportLine} {after : String}
    (readable : ImportsReadable lines after) (space : String) :
    reading rules Statements.importDeclaration ⟨true, ends, held⟩
        ⟨(imports space lines after).tokens ++ rest, false⟩ =
      .done [imports space lines after] (Cursor.after rest true) := by
  have listed (ends : Bool) (held : List Tree) :
      reading rules (Types.terminated (.rule .importSpec)) ⟨false, ends, held⟩
          ⟨Tree.tokensOf (lines.map ImportLine.tree) ++ token after .mark ")" :: rest, false⟩ =
        .done (lines.map ImportLine.tree) ⟨token after .mark ")" :: rest, false⟩ :=
    reading_listed (fun line among => ImportLine.lineReads (readable.each line among))
      readable.closed (by simp [closers])
  rw [Statements.importDeclaration]
  simp [imports, tokensOf_append, Statements.importList, listed, keyword, mark]

/-! Interfaces. -/

structure Element.Readable (element : Element) : Prop where
  line : breaks element.space = true
  name : element.name ∉ typeWords
  signature : element.signature.Readable

theorem Element.lineReads {element : Element} (readable : element.Readable) :
    LineReads (.rule .interfaceElement) element.tree where
  starts tail := by
    simp [Element.tree, StartsLine, readable.line]
  reads tail ends held starts := by
    have after : Cursor.after tail true = ⟨tail, true⟩ := starts
    have tokens : element.tree.tokens ++ tail = token element.space .word element.name ::
        (Tree.tokensOf element.signature.trees ++ tail) := by
      simp [Element.tree]
    have joined : (⟨Tree.tokensOf element.signature.trees ++ tail, false⟩ : Cursor).atLineStart =
        false := by
      simp [Signature.trees, parameters]
    rw [tokens, reading_rule, rules, Types.interfaceElement]
    simp [Types.method, readable.name, joined, reading_signature readable.signature starts.typeEnds,
      after, Element.tree, Written.name]

theorem reading_interfaceType {elements : List Element}
    (readable : ∀ element ∈ elements, element.Readable) :
    reading rules (.rule .type) ⟨true, ends, held⟩
        ⟨(interfaceType elements).tokens ++ rest, false⟩ =
      .done [(interfaceType elements).withRole .plain] (Cursor.after rest true) := by
  have listed (ends : Bool) (held : List Tree) :
      reading rules (Types.terminated (.rule .interfaceElement)) ⟨false, ends, held⟩
          ⟨Tree.tokensOf (elements.map Element.tree) ++ token "\n" .mark "\x7d" :: rest, false⟩ =
        .done (elements.map Element.tree) ⟨token "\n" .mark "\x7d" :: rest, false⟩ :=
    reading_listed (fun element among => Element.lineReads (readable element among))
      (fun _ => rfl) (by simp [closers])
  rw [reading_rule, rules, Types.type, reading_alt, reading_rule, rules, Types.simpleType]
  simp [interfaceType, tokensOf_append, listed, keyword, mark]

end Top

/-! Whole sources. -/

abbrev topLevel : Form :=
  .choice
    [Statements.package, Statements.importDeclaration, Statements.functionDeclaration,
     Statements.methodDeclaration,
     .seq (.absent Statements.methodStart) (.rule (.statement .top))]

/-- A tree is read back at the top of a source, up to the end of its line. -/
def TopReads (tree : Tree) : Prop :=
  ∀ tail ends held, tail = [] ∨ StartsLine tail →
    reading rules topLevel ⟨true, ends, held⟩ ⟨tree.tokens ++ tail, false⟩ =
      .done [tree] (Cursor.after tail true)

theorem package_topReads (text : String) : TopReads (package text) := by
  intro tail ends held _
  simp [Statements.package, package, keyword, name]

theorem imports_topReads {lines : List ImportLine} {after : String}
    (readable : ImportsReadable lines after) (space : String) :
    TopReads (imports space lines after) := by
  intro tail ends held _
  have read (ends : Bool) (held : List Tree) :
      reading rules Statements.importDeclaration ⟨true, ends, held⟩
          ⟨(imports space lines after).tokens ++ tail, false⟩ =
        .done [imports space lines after] (Cursor.after tail true) :=
    reading_imports readable space
  have tokens : ∃ more, (imports space lines after).tokens ++ tail =
      token space .word "import" :: more := ⟨_, rfl⟩
  obtain ⟨more, tokens⟩ := tokens
  rw [tokens] at read ⊢
  simp [Statements.package, read]

theorem typeDeclaration_topReads {target : Tree} (readable : ∀ tail, Target target tail)
    (space text : String) : TopReads (typeDeclaration space text target) := by
  intro tail ends held _
  have read (ends : Bool) (held : List Tree) :
      reading rules (.rule (.statement .top)) ⟨true, ends, held⟩
          ⟨(typeDeclaration space text target).tokens ++ tail, false⟩ =
        .done [typeDeclaration space text target] (Cursor.after tail true) :=
    reading_typeDeclaration (readable tail) space text
  have tokens : ∃ more, (typeDeclaration space text target).tokens ++ tail =
      token space .word "type" :: more := ⟨_, rfl⟩
  obtain ⟨more, tokens⟩ := tokens
  rw [tokens] at read ⊢
  simp [Statements.package, Statements.importDeclaration, Statements.functionDeclaration,
    Statements.methodDeclaration, Statements.methodStart, read]

theorem mockMethod_topReads {method : MockMethod} (readable : method.Readable) :
    TopReads method.tree := by
  intro tail ends held _
  have read (ends : Bool) (held : List Tree) :
      reading rules Statements.methodDeclaration ⟨true, ends, held⟩
          ⟨method.tree.tokens ++ tail, false⟩ =
        .done [method.tree] (Cursor.after tail true) :=
    reading_mockMethod readable
  have tokens : ∃ more, method.tree.tokens ++ tail =
      token method.space .word "func" :: token " " .mark "(" :: more := ⟨_, rfl⟩
  obtain ⟨more, tokens⟩ := tokens
  rw [tokens] at read ⊢
  simp [Statements.package, Statements.importDeclaration, Statements.functionDeclaration, read]

theorem topLevel_opens : topLevel.opens = true := by decide +kernel

@[simp] theorem topLevel_flat : topLevel.startsWithTerminator = false := rfl

/-- A source whose declarations each start a line is read back. -/
theorem reading_source {trees : List Tree} (each : ∀ tree ∈ trees, TopReads tree)
    (lines : ∀ tree ∈ trees.tail, ∀ tail, StartsLine (tree.tokens ++ tail)) {ends : Bool}
    {held : List Tree} :
    reading rules Statements.source ⟨false, ends, held⟩ ⟨Tree.tokensOf trees, false⟩ =
      .done trees ⟨[], false⟩ := by
  have source : Statements.source = .many (.seq topLevel .terminator) := rfl
  rw [source]
  have before : (Gram.many (.seq topLevel .terminator)).terminatorBefore false = false := rfl
  have follows : (Gram.terminator : Form).terminatorBefore false = true := rfl
  induction trees with
  | nil =>
      have closed : (⟨[], false⟩ : Cursor).isClosed := .inl (.inl rfl)
      rw [reading_many, before, reading_seq, Tree.tokensOf, reading_closed closed topLevel_opens,
        Reply.andThen_mismatch, Reply.branch_mismatch]
  | cons tree trees ih =>
      have later := ih (fun other member => each other (List.mem_cons_of_mem _ member))
        (fun other member => lines other (List.mem_of_mem_tail member))
      have tail : Tree.tokensOf trees = [] ∨ StartsLine (Tree.tokensOf trees) := by
        cases trees with
        | nil => exact .inl rfl
        | cons next more => exact .inr (lines next List.mem_cons_self _)
      have here := each tree List.mem_cons_self (Tree.tokensOf trees) ends held tail
      have ended : (Cursor.after (Tree.tokensOf trees) true).terminator false =
          .done [] ⟨Tree.tokensOf trees, false⟩ := by
        rcases tail with none | starts
        · simp [none, Cursor.terminator]
        · rw [show Cursor.after (Tree.tokensOf trees) true = _ from starts]
          rfl
      rw [reading_many, before, reading_seq, follows, Tree.tokensOf, here, Reply.andThen_done,
        reading_terminator, ended, Reply.after_done, Reply.branch_done, later, Reply.after_done]
      rfl

end InterfaceMocks.Written
