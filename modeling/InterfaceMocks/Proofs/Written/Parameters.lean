import InterfaceMocks.Proofs.Written.Types

/-!
Lists of parameters are read back. A name alone could be the first of several names that share a
type, and is read as a type only where no type comes after the names: `absorbs` says of the slots
after it whether one does. So a list reads back when its slots are all named, or all unnamed.
-/

namespace InterfaceMocks.Written

open InterfaceMocks.Syntax
open InterfaceMocks.Grammar

namespace Slot

def isBare (slot : Slot) : Bool :=
  slot.names.isEmpty &&
    match slot.type with
    | .named _ | .unrecognised => true
    | _ => false

structure Readable (slot : Slot) : Prop where
  first : ∀ text ∈ slot.names.head?, text ∉ typeWords
  names : ∀ text ∈ slot.names, text ≠ "map"
  type : TypeReadable slot.type

end Slot

/-- Whether a word before these slots would be read as a name for the type of one of them. -/
def absorbs : List Slot → Bool
  | [] => false
  | slot :: rest => if slot.names.isEmpty then slot.isBare && absorbs rest else true

def SlotsReadable : List Slot → Prop
  | [] => True
  | slot :: rest =>
      slot.Readable ∧ (slot.isBare = true → absorbs rest = false) ∧ SlotsReadable rest

theorem slotsReadable_named {slots : List Slot}
    (each : ∀ slot ∈ slots, slot.Readable ∧ slot.names ≠ []) : SlotsReadable slots := by
  induction slots with
  | nil => trivial
  | cons slot rest ih =>
      obtain ⟨readable, named⟩ := each slot List.mem_cons_self
      refine ⟨readable, fun bare => ?_, ih fun other member => each other (List.mem_cons_of_mem _ member)⟩
      simp [Slot.isBare, named] at bare

theorem slotsReadable_unnamed {slots : List Slot}
    (each : ∀ slot ∈ slots, slot.Readable ∧ slot.names = []) :
    SlotsReadable slots ∧ absorbs slots = false := by
  induction slots with
  | nil => exact ⟨trivial, rfl⟩
  | cons slot rest ih =>
      obtain ⟨readable, unnamed⟩ := each slot List.mem_cons_self
      obtain ⟨later, absent⟩ := ih fun other member => each other (List.mem_cons_of_mem _ member)
      exact ⟨⟨readable, fun _ => absent, later⟩, by simp [absorbs, unnamed, absent]⟩

def slotTokens (slots : List Slot) : List Token :=
  slots.flatMap fun slot => token "" .mark "," :: slot.tree.tokens

theorem tokensOf_commas (slots : List Slot) (slot : Slot) :
    Tree.tokensOf (commas ((slot :: slots).map Slot.tree)) =
      slot.tree.tokens ++ slotTokens slots := by
  induction slots with
  | nil => simp [commas, slotTokens]
  | cons next rest ih =>
      simp_all [commas, slotTokens]

/-- How a type starts: with a word, a star or a bracket. -/
theorem type_start (role : Role) (space : String) (expr : TypeExpr) :
    ∃ lexeme text more, (type role space expr).tokens = token space lexeme text :: more ∧
      ((lexeme = .word) ∨ (lexeme = .mark ∧ (text = "*" ∨ text = "["))) := by
  cases expr with
  | named text => exact ⟨_, _, _, rfl, .inl rfl⟩
  | qualified package text => exact ⟨_, _, _, rfl, .inl rfl⟩
  | unrecognised => exact ⟨_, _, _, rfl, .inl rfl⟩
  | pointer inner => exact ⟨_, _, _, rfl, .inr ⟨rfl, .inl rfl⟩⟩
  | array length element =>
      cases length <;> exact ⟨_, _, _, rfl, .inr ⟨rfl, .inr rfl⟩⟩

section Slots

variable {ends : Bool} {held : List Tree} {rest : List Token}

abbrev moreNames : Form :=
  .many (.seq (.leaf .mark (.mark ",")) (.as .name (.leaf .identifier (.name []))))

/-- Names after the first, of any kind. -/
theorem reading_moreNames {kind : Kind} (names : List String)
    (other : ∀ next more, rest = next :: more → ¬ (next.lexeme = .mark ∧ next.text = ",")) :
    reading rules (.many (.seq (.leaf .mark (.mark ",")) (.as .name (.leaf kind (.name [])))))
        ⟨false, ends, held⟩
        ⟨names.flatMap (fun text => [token "" .mark ",", token " " .word text]) ++ rest, false⟩ =
      .done (names.flatMap fun text => [mark "" ",", name kind .name " " text])
        ⟨rest, false⟩ := by
  induction names with
  | nil =>
      rw [reading_many]
      rcases rest with _ | ⟨next, more⟩
      · simp
      · simp [other next more rfl]
  | cons text names ih =>
      rw [reading_many]
      simp [ih, mark, name]

theorem tokensOf_names {kind : Kind} (names : List String) :
    Tree.tokensOf (names.flatMap fun text => [mark "" ",", name kind .name " " text]) =
      names.flatMap fun text => [token "" .mark ",", token " " .word text] := by
  induction names with
  | nil => rfl
  | cons text names ih => simp [ih]

theorem reading_moreNames_nil {next : Token} (other : next.text ≠ ",") :
    reading rules moreNames ⟨false, ends, held⟩ ⟨next :: rest, false⟩ =
      .done [] ⟨next :: rest, false⟩ := by
  rw [reading_many]
  simp [other]

/-- A type does not start with a dot or a brace. -/
theorem reading_type_mark {follows broken : Bool} {next : Token} (isMark : next.lexeme = .mark)
    (other : next.text = "." ∨ next.text = "\x7b") :
    reading rules (.rule .type) ⟨follows, ends, held⟩ ⟨next :: rest, broken⟩ = .mismatch
      ∧ reading rules (.rule .simpleType) ⟨follows, ends, held⟩ ⟨next :: rest, broken⟩
        = .mismatch := by
  cases broken with
  | true =>
      have closed : (⟨next :: rest, true⟩ : Cursor).isClosed := .inl (.inr rfl)
      exact ⟨reading_closed closed (Gram.opens_rule _) _, reading_closed closed (Gram.opens_rule _) _⟩
  | false =>
      rcases other with same | same <;>
        simp [reading_rule, rules, Types.type, Types.simpleType, isMark, same]

theorem reading_settled {g : Form} (fits : g.fits Rule.rank 62 = true) (setting : Setting)
    (cursor : Cursor) :
    reading rules g setting cursor = .mismatch
      ∨ ∃ trees next, reading rules g setting cursor = .done trees next := by
  cases found : reading rules g setting cursor with
  | done trees next => exact .inr ⟨trees, next, rfl⟩
  | mismatch => exact .inl rfl
  | exhausted => exact absurd found (reading_given rules_ranked g setting cursor fits)

/-! A word alone. It is a type unless what comes after it gives it one. -/

/-- No type that a parameter could have is here: none is read, or one that neither a comma nor the end
of the list comes after. -/
def NoSharedType (tokens : List Token) : Prop :=
  ∀ ends held, reading rules (.rule .type) ⟨false, ends, held⟩ ⟨tokens, false⟩ = .mismatch ∨
    ∃ trees next more, reading rules (.rule .type) ⟨false, ends, held⟩ ⟨tokens, false⟩ =
        .done trees ⟨next :: more, false⟩
      ∧ ¬ (next.lexeme = .mark ∧ next.text = ",") ∧ ¬ (next.lexeme = .mark ∧ next.text = ")")

/-- After a word, more names may come, but no type that they share. -/
def Unshared (tokens : List Token) : Prop :=
  ∀ ends held, ∃ trees later,
    reading rules moreNames ⟨false, ends, held⟩ ⟨tokens, false⟩ = .done trees ⟨later, false⟩
      ∧ NoSharedType later

theorem noSharedType_of_closed {tokens : List Token} (closed : (⟨tokens, false⟩ : Cursor).isClosed) :
    NoSharedType tokens :=
  fun _ _ => .inl (reading_closed closed (Gram.opens_rule _) _)

/-- The names end where no word comes after a comma. -/
theorem unshared_of_other {tokens : List Token}
    (other : ∀ next more, tokens = next :: more → next.lexeme ≠ .word) :
    Unshared (token "" .mark "," :: tokens) := by
  intro ends held
  refine ⟨[], token "" .mark "," :: tokens, ?_, noSharedType_of_closed ?_⟩
  · rw [reading_many]
    cases tokens with
    | nil => simp
    | cons next more => simp [other next more rfl]
  · exact .inr ⟨_, _, rfl, rfl, by simp [closers]⟩

/-- They end where there is no comma. -/
theorem NoSharedType.unshared {tokens : List Token} (none : NoSharedType tokens)
    (last : ∀ next more, tokens = next :: more → ¬ (next.lexeme = .mark ∧ next.text = ",")) :
    Unshared tokens := by
  intro ends held
  refine ⟨[], tokens, ?_, none⟩
  rw [reading_many]
  cases tokens with
  | nil => simp
  | cons next more => simp [last next more rfl]

/-- A word after a comma is one more name. -/
theorem Unshared.more {tokens : List Token} (unshared : Unshared tokens) (space text : String) :
    Unshared (token "" .mark "," :: token space .word text :: tokens) := by
  intro ends held
  obtain ⟨trees, later, found, none⟩ := unshared ends held
  refine ⟨[mark "" ",", name .identifier .name space text] ++ trees, later, ?_, none⟩
  rw [reading_many]
  simp [found, mark, name]

/-- Where no type comes after the names, no parameter has a name. -/
theorem Unshared.not_named {space first : String} {tail : List Token} (unshared : Unshared tail) :
    reading rules Types.namedParameter ⟨false, ends, held⟩
      ⟨token space .word first :: tail, false⟩ = .mismatch := by
  -- whatever the look ahead for a generic type says, no type comes after the names
  have settled := reading_settled (by decide +kernel : Types.beforeGenericKey.fits _ _ = true)
    ⟨false, ends, held⟩ ⟨token space .word first :: tail, false⟩
  obtain ⟨trees, later, found, none⟩ := unshared ends held
  by_cases plain : first ∈ typeWords
  · rcases settled with key | ⟨_, _, key⟩ <;> simp [Types.namedParameter, key, plain]
  · rcases none ends held with noType | ⟨types, next, more, typed, comma, close⟩
    · rcases settled with key | ⟨_, _, key⟩ <;>
        simp [Types.namedParameter, key, plain, found, noType]
    · rcases settled with key | ⟨_, _, key⟩ <;>
        simp [Types.namedParameter, key, plain, found, typed, comma, close]

theorem noSharedType_mark {space text : String} {tail : List Token}
    (other : text = "." ∨ text = "\x7b" ∨ text = "...") :
    NoSharedType (token space .mark text :: tail) := by
  refine fun ends held => .inl ?_
  rcases other with rfl | rfl | rfl <;> simp [reading_rule, rules, Types.type, Types.simpleType]

/-- A mark other than a comma gives the names before it no type, if none starts with it. -/
theorem NoSharedType.unshared_mark {space text : String} {tail : List Token}
    (none : NoSharedType (token space .mark text :: tail)) (other : text ≠ ",") :
    Unshared (token space .mark text :: tail) := by
  refine none.unshared ?_
  rintro next more same
  obtain ⟨rfl, -⟩ := List.cons.inj same
  simp [other]

theorem unshared_comma {space text : String} {tail : List Token} :
    Unshared (token "" .mark "," :: token space .mark text :: tail) := by
  refine unshared_of_other ?_
  rintro next more same
  obtain ⟨rfl, -⟩ := List.cons.inj same
  simp

def NotLabelled (tokens : List Token) : Prop :=
  ∀ ends held,
    reading rules Types.namedParameter ⟨false, ends, held⟩ ⟨tokens, false⟩ = .mismatch
      ∧ reading rules Types.variadicParameter ⟨false, ends, held⟩ ⟨tokens, false⟩ = .mismatch

theorem notLabelled_mark {space text : String} {tail : List Token} (other : text ≠ "...") :
    NotLabelled (token space .mark text :: tail) := fun ends held => by
  simp [Types.namedParameter, Types.beforeGenericKey, Types.variadicParameter, other]

theorem notLabelled_typeWord {space text : String} (word : text ∈ typeWords) {tail : List Token} :
    NotLabelled (token space .word text :: tail) := fun ends held => by
  simp [Types.namedParameter, Types.beforeGenericKey, Types.variadicParameter, word]

theorem Unshared.notLabelled {space text : String} {next : Token} {more : List Token}
    (unshared : Unshared (next :: more)) (other : ¬ (next.lexeme = .mark ∧ next.text = "...")) :
    NotLabelled (token space .word text :: next :: more) := fun ends held => by
  refine ⟨unshared.not_named, ?_⟩
  by_cases plain : text ∈ typeWords <;> simp [Types.variadicParameter, plain, other]

/-- A type is a parameter by itself where none is labelled. -/
theorem NotLabelled.reads {tokens : List Token} {type : Tree} {next : Cursor}
    (notLabelled : NotLabelled tokens)
    (typed : ∀ ends held, reading rules (.rule .type) ⟨false, ends, held⟩ ⟨tokens, false⟩ =
      .done [type] next) :
    reading rules Types.parameter ⟨false, ends, held⟩ ⟨tokens, false⟩ =
      .done [.node .parameterDeclaration .plain [type.withRole .type]] next := by
  obtain ⟨named, variadic⟩ := notLabelled ends held
  simp [Types.parameter, named, variadic, Types.lonelyType, typed]

/-! Lists of slots. -/

def closing (slots : List Slot) (rest : List Token) : List Token :=
  slotTokens slots ++ token "" .mark ")" :: rest

theorem closing_start (slots : List Slot) (rest : List Token) :
    ∃ text more, closing slots rest = token "" .mark text :: more ∧ (text = "," ∨ text = ")") := by
  cases slots with
  | nil => exact ⟨_, _, rfl, .inr rfl⟩
  | cons slot slots => exact ⟨_, _, rfl, .inl rfl⟩

theorem closing_ends (slots : List Slot) (rest : List Token) : TypeEnds false (closing slots rest) := by
  obtain ⟨text, more, same, listed⟩ := closing_start slots rest
  intro next more' first
  rw [same] at first
  obtain ⟨rfl, rfl⟩ := List.cons.inj first
  exact .inr ⟨rfl, by rcases listed with rfl | rfl <;> simp⟩

theorem closing_closed (slots : List Slot) (rest : List Token) :
    (⟨closing slots rest, false⟩ : Cursor).isClosed := by
  obtain ⟨text, more, same, listed⟩ := closing_start slots rest
  exact .inr ⟨_, more, same, rfl, by rcases listed with rfl | rfl <;> simp [closers]⟩

/-- A word takes no type from slots that none of them absorbs. -/
theorem closing_unshared (slots : List Slot) (rest : List Token) (unread : absorbs slots = false) :
    Unshared (closing slots rest) := by
  induction slots with
  | nil => exact (noSharedType_of_closed (closing_closed [] rest)).unshared_mark (by simp)
  | cons slot slots ih =>
      obtain ⟨space, names, expr⟩ := slot
      have unnamed : names = [] := by
        by_contra named
        simp [absorbs, named] at unread
      subst unnamed
      have tokens : closing (⟨space, [], expr⟩ :: slots) rest =
          token "" .mark "," :: ((type .type space expr).tokens ++ closing slots rest) := by
        simp [closing, slotTokens, Slot.tree, Slot.trees]
      rw [tokens]
      -- a word is taken for one more name; any other start of a type ends the names
      cases expr with
      | named text => exact (ih (by simpa [absorbs, Slot.isBare] using unread)).more space text
      | unrecognised => exact (ih (by simpa [absorbs, Slot.isBare] using unread)).more space _
      | qualified package text =>
          exact ((noSharedType_mark (.inl rfl)).unshared_mark (by simp)).more space package
      | pointer inner => exact unshared_comma
      | array length element => cases length <;> exact unshared_comma

/-- A word and what may come after it do not start a map with a generic key. -/
theorem reading_beforeGenericKey {first : String} {names : List String} {expr : TypeExpr}
    (space : String) (plain : first ∉ typeWords) (others : ∀ text ∈ names, text ≠ "map") :
    reading rules Types.beforeGenericKey ⟨false, ends, held⟩
        ⟨token space .word first
          :: (names.flatMap (fun text => [token "" .mark ",", token " " .word text])
            ++ ((type .type " " expr).tokens ++ rest)), false⟩ = .mismatch := by
  obtain ⟨lexeme, text, more, start, known⟩ := type_start .type " " expr
  rw [start]
  cases names with
  | nil =>
      rcases known with rfl | ⟨rfl, rfl | rfl⟩ <;>
        simp [Types.beforeGenericKey, plain]
  | cons second names =>
      have notMap : second ≠ "map" := others second List.mem_cons_self
      cases names with
      | nil =>
          rcases known with rfl | ⟨rfl, rfl | rfl⟩ <;>
            simp [Types.beforeGenericKey, plain, notMap]
      | cons third names =>
          have notMap' : third ≠ "map" := others third (by simp)
          simp [Types.beforeGenericKey, plain, notMap, notMap']

theorem reading_named_slot {slot : Slot} {first : String} {names : List String}
    (named : slot.names = first :: names) (readable : slot.Readable) (slots : List Slot) :
    reading rules Types.parameter ⟨false, ends, held⟩
        ⟨slot.tree.tokens ++ closing slots rest, false⟩ =
      .done [slot.tree] ⟨closing slots rest, false⟩ := by
  obtain ⟨space, _, expr⟩ := slot
  subst named
  obtain ⟨firstOk, namesOk, typeOk⟩ := readable
  have plain : first ∉ typeWords := firstOk first rfl
  have notMaps (text : String) (member : text ∈ names) : text ≠ "map" :=
    namesOk text (List.mem_cons_of_mem _ member)
  have tokens : (Slot.mk space (first :: names) expr).tree.tokens ++ closing slots rest =
      token space .word first
        :: (names.flatMap (fun text => [token "" .mark ",", token " " .word text])
          ++ ((type .type " " expr).tokens ++ closing slots rest)) := by
    simp [Slot.tree, Slot.trees, tokensOf_append, tokensOf_names]
  have noComma : ∀ next more, (type .type " " expr).tokens ++ closing slots rest = next :: more →
      ¬ (next.lexeme = .mark ∧ next.text = ",") := by
    obtain ⟨lexeme, text, more, start, known⟩ := type_start .type " " expr
    rintro next more' same ⟨isMark, comma⟩
    rw [start] at same
    obtain ⟨rfl, -⟩ := List.cons.inj same
    rcases known with rfl | ⟨rfl, rfl | rfl⟩ <;> simp_all
  have typeEnds := closing_ends slots rest
  obtain ⟨text, more, start, listed⟩ := closing_start slots rest
  rw [tokens]
  rw [start] at noComma typeEnds ⊢
  rcases listed with rfl | rfl <;>
    simp [Types.parameter, Types.namedParameter, reading_beforeGenericKey space plain notMaps,
      reading_moreNames names noComma, reading_type typeOk .type " " typeEnds, plain, Slot.tree,
      Slot.trees, name, mark]

theorem slot_notLabelled {expr : TypeExpr} {slots : List Slot}
    (alone : (Slot.mk "" [] expr).isBare = true → absorbs slots = false) (space : String) :
    NotLabelled ((type .type space expr).tokens ++ closing slots rest) := by
  have word (text : String) (unread : absorbs slots = false) :
      NotLabelled (token space .word text :: closing slots rest) := by
    have unshared := closing_unshared slots rest unread
    obtain ⟨mark, more, same, listed⟩ := closing_start slots rest
    rw [same] at unshared ⊢
    exact unshared.notLabelled (by rcases listed with rfl | rfl <;> simp)
  cases expr with
  | named text => exact word text (alone rfl)
  | unrecognised => exact word _ (alone rfl)
  | qualified package text =>
      exact ((noSharedType_mark (.inl rfl)).unshared_mark (by simp)).notLabelled (by simp)
  | pointer inner => exact notLabelled_mark (by simp)
  | array length element => cases length <;> exact notLabelled_mark (by simp)

theorem reading_lone_slot {slot : Slot} (unnamed : slot.names = []) (readable : slot.Readable)
    {slots : List Slot} (alone : slot.isBare = true → absorbs slots = false) :
    reading rules Types.parameter ⟨false, ends, held⟩
        ⟨slot.tree.tokens ++ closing slots rest, false⟩ =
      .done [slot.tree] ⟨closing slots rest, false⟩ := by
  obtain ⟨space, _, expr⟩ := slot
  subst unnamed
  have tokens : (Slot.mk space [] expr).tree.tokens = (type .type space expr).tokens := by
    simp [Slot.tree, Slot.trees]
  have typed (ends : Bool) (held : List Tree) :
      reading rules (.rule .type) ⟨false, ends, held⟩
          ⟨(type .type space expr).tokens ++ closing slots rest, false⟩ =
        .done [type .plain space expr] ⟨closing slots rest, false⟩ := by
    rw [reading_type readable.type .type space (closing_ends slots rest), after_flat]
  rw [tokens, (slot_notLabelled alone space).reads typed, type_withRole]
  rfl

/-- A parameter is read back, given those after it. -/
theorem reading_slot {slot : Slot} {slots : List Slot} (readable : slot.Readable)
    (alone : slot.isBare = true → absorbs slots = false) :
    reading rules Types.parameter ⟨false, ends, held⟩
        ⟨slot.tree.tokens ++ closing slots rest, false⟩ =
      .done [slot.tree] ⟨closing slots rest, false⟩ := by
  cases named : slot.names with
  | nil => exact reading_lone_slot named readable alone
  | cons first names => exact reading_named_slot named readable slots

@[simp] theorem parameter_nullable : Types.parameter.nullable = false := rfl

@[simp] theorem parameter_flat : Types.parameter.startsWithTerminator = false := rfl

abbrev moreParameters : Form := .many (.seq (.leaf .mark (.mark ",")) Types.parameter)

theorem reading_moreParameters {slots : List Slot} (readable : SlotsReadable slots) :
    reading rules moreParameters ⟨false, ends, held⟩ ⟨closing slots rest, false⟩ =
      .done (slots.flatMap fun slot => [mark "" ",", slot.tree]) ⟨closing [] rest, false⟩ := by
  induction slots with
  | nil =>
      rw [reading_many]
      simp [closing, slotTokens]
  | cons slot slots ih =>
      obtain ⟨here, alone, later⟩ := readable
      have tokens : closing (slot :: slots) rest =
          token "" .mark "," :: (slot.tree.tokens ++ closing slots rest) := by
        simp [closing, slotTokens]
      rw [reading_many, tokens]
      simp [reading_slot here alone, ih later, mark]

theorem parameters_tokens (role : Role) (space : String) (slots : List Slot) (rest : List Token) :
    (parameters role space slots).tokens ++ rest = token space .mark "(" ::
      match slots with
      | [] => closing [] rest
      | slot :: slots => slot.tree.tokens ++ closing slots rest := by
  cases slots with
  | nil => simp [parameters, commas, closing, slotTokens]
  | cons slot slots =>
      simp only [parameters, Tree.tokens, Tree.tokensOf, tokensOf_append, tokensOf_commas]
      simp [closing]

end Slots

/-- A list of parameters is read back. -/
theorem reading_parameters {slots : List Slot} (readable : SlotsReadable slots) (role : Role)
    (space : String) {follows ends : Bool} {held : List Tree} {rest : List Token} :
    reading rules (.rule .parameters) ⟨follows, ends, held⟩
        ⟨(parameters role space slots).tokens ++ rest, false⟩ =
      .done [parameters .plain space slots] (Cursor.after rest follows) := by
  rw [reading_rule, rules, Types.parameters, parameters_tokens]
  cases slots with
  | nil =>
      have none (setting : Setting) : reading rules Types.parameter setting
          ⟨token "" .mark ")" :: rest, false⟩ = .mismatch :=
        reading_closed (closing_closed [] rest) (by decide +kernel) setting
      simp [closing, slotTokens, none, parameters, commas, mark]
  | cons slot slots =>
      obtain ⟨here, alone, later⟩ := readable
      simp [reading_slot here alone, reading_moreParameters later]
      simp [closing, slotTokens, parameters, commas, mark, List.flatMap_map]

/-! Signatures: what comes after the parameters is on their line. -/

def Result.Readable : Result → Prop
  | none => True
  | lone space type => breaks space = false ∧ TypeReadable type
  | list space slots => breaks space = false ∧ SlotsReadable slots

structure Signature.Readable (signature : Signature) : Prop where
  args : SlotsReadable signature.args
  result : signature.result.Readable

@[simp] theorem signature_nullable : Types.signature.nullable = false := rfl

@[simp] theorem signature_flat : Types.signature.startsWithTerminator = false := rfl

@[simp] theorem result_nullable : Types.result.nullable = true := rfl

@[simp] theorem result_flat : Types.result.startsWithTerminator = false := rfl

section Signatures

variable {follows ends : Bool} {held : List Tree} {rest : List Token}

@[simp] theorem after_token (space : String) (lexeme : Lexeme) (text : String) :
    Cursor.after (token space lexeme text :: rest) follows =
      ⟨token space lexeme text :: rest, follows && breaks space⟩ := by
  simp [Cursor.after]

theorem reading_parameters_other {broken : Bool} {next : Token}
    (other : ¬ (next.lexeme = .mark ∧ next.text = "(")) :
    reading rules (.rule .parameters) ⟨follows, ends, held⟩ ⟨next :: rest, broken⟩ =
      .mismatch := by
  cases broken <;> simp [reading_rule, rules, Types.parameters, other]

/-- Neither a type nor a list of parameters comes next: the line or a list ends, or the brace of a body
or a string stands there. -/
def NoResult (cursor : Cursor) : Prop :=
  cursor.isClosed ∨ ∃ next more, cursor = ⟨next :: more, false⟩
    ∧ ((next.lexeme = .mark ∧ next.text = "\x7b") ∨ next.lexeme = .quoted ∨ next.lexeme = .raw)

theorem TypeEnds.noResult (ended : TypeEnds follows rest) : NoResult (Cursor.after rest follows) := by
  rcases rest with _ | ⟨next, more⟩
  · exact .inl (.inl (.inl rfl))
  · rcases ended next more rfl with ⟨rfl, line⟩ | ⟨isMark, listed⟩
    · exact .inl (.inl (.inr (by simp [Cursor.after, line])))
    · by_cases closer : next.text ∈ closers
      · exact .inl (.inr ⟨next, more, rfl, isMark, closer⟩)
      · by_cases line : follows = true ∧ next.startsLine = true
        · exact .inl (.inl (.inr (by simp [Cursor.after, line])))
        · refine .inr ⟨next, more, by simpa [Cursor.after] using line, .inl ⟨isMark, ?_⟩⟩
          simp_all [closers]

/-- Without results, nothing is read after the parameters. -/
theorem NoResult.reads {cursor : Cursor} (none : NoResult cursor) :
    reading rules Types.result ⟨follows, ends, held⟩ cursor = .done [] cursor := by
  rcases none with closed | ⟨next, more, rfl, other⟩
  · have parameters := fun setting =>
      reading_closed closed (Gram.opens_rule .parameters) setting
    have type := fun setting =>
      reading_closed closed (Gram.opens_rule .simpleType) setting
    have start := fun setting => reading_closed closed
      (by decide +kernel : Gram.opens (.alt (.choice (["(", "[", "*", "~"].map .punct))
        (.leaf .mark (.oneOf typeWords))) = true) setting
    rw [Types.result, reading_alt, reading_as, reading_alt, parameters, Reply.orElse_mismatch, type,
      Reply.map_mismatch, Reply.orElse_mismatch, reading_absent, start, Reply.branch_mismatch]
  · have simple (setting : Setting) : reading rules (.rule .simpleType) setting
        ⟨next :: more, false⟩ = .mismatch := by
      rcases other with ⟨isMark, text⟩ | string | string <;>
        simp [reading_rule, rules, Types.simpleType, *]
    have list (setting : Setting) : reading rules (.rule .parameters) setting
        ⟨next :: more, false⟩ = .mismatch := by
      rcases other with ⟨isMark, text⟩ | string | string <;>
        simp [reading_rule, rules, Types.parameters, *]
    have words : next.lexeme ≠ .word := by
      rcases other with ⟨isMark, -⟩ | string | string <;> simp [*]
    have opening : ∀ text ∈ ["(", "[", "*", "~"], ¬ (next.lexeme = .mark ∧ next.text = text) := by
      rcases other with ⟨-, text⟩ | string | string <;> simp [*]
    simp only [List.forall_mem_cons, List.not_mem_nil, false_implies, implies_true, and_true] at opening
    simp [Types.result, simple, list, words, opening]

theorem reading_result {result : Result} (readable : result.Readable)
    (ended : TypeEnds follows rest) :
    reading rules Types.result ⟨follows, ends, held⟩
        (Cursor.after (Tree.tokensOf result.trees ++ rest) follows) =
      .done result.trees (Cursor.after rest follows) := by
  cases result with
  | none => exact ended.noResult.reads
  | lone space expr =>
      obtain ⟨flat, readable⟩ := readable
      have typed (ends : Bool) (held : List Tree) :
          reading rules (.rule .simpleType) ⟨follows, ends, held⟩
              ⟨(type .result space expr).tokens ++ rest, false⟩ =
            .done [type .plain space expr] (Cursor.after rest follows) := by
        rw [← type_withRole .result .plain, tokens_withRole]
        exact reading_simpleType readable space ended
      obtain ⟨lexeme, text, more, start, known⟩ := type_start .result space expr
      have noList : ¬ ((token space lexeme text).lexeme = .mark
          ∧ (token space lexeme text).text = "(") := by
        rcases known with rfl | ⟨rfl, rfl | rfl⟩ <;> simp
      simp only [Result.trees, Tree.tokensOf, List.append_nil]
      rw [start] at typed ⊢
      rw [List.cons_append, after_token, flat, Bool.and_false]
      simp only [List.cons_append] at typed
      simp only [Types.result, reading_alt, reading_as, reading_parameters_other noList, typed,
        Reply.orElse_mismatch, Reply.map_done, Reply.orElse_done, List.map_cons, List.map_nil,
        type_withRole]
  | list space slots =>
      have read (ends : Bool) (held : List Tree) :
          reading rules (.rule .parameters) ⟨follows, ends, held⟩
              ⟨(parameters .result space slots).tokens ++ rest, false⟩ =
            .done [parameters .plain space slots] (Cursor.after rest follows) :=
        reading_parameters readable.2 .result space
      rw [parameters_tokens] at read
      simp [Result.trees, parameters_tokens, readable.1, Types.result, read]
      simp [parameters]

theorem reading_signature {signature : Signature} (readable : signature.Readable)
    (ended : TypeEnds follows rest) :
    reading rules Types.signature ⟨follows, ends, held⟩
        ⟨Tree.tokensOf signature.trees ++ rest, false⟩ =
      .done signature.trees (Cursor.after rest follows) := by
  simp [Types.signature, Signature.trees, reading_parameters readable.args,
    reading_result readable.result ended]
  simp [parameters]

/-- A type of functions is read back. -/
theorem reading_functionType {signature : Signature} (readable : signature.Readable) (role : Role)
    (space : String) (ended : TypeEnds follows rest) :
    reading rules (.rule .type) ⟨follows, ends, held⟩
        ⟨(functionType role space signature).tokens ++ rest, false⟩ =
      .done [functionType .plain space signature] (Cursor.after rest follows) := by
  simp [reading_rule, rules, Types.type, Types.simpleType, functionType, keyword,
    reading_signature readable ended]

end Signatures

end InterfaceMocks.Written
