import InterfaceMocks.Proofs.Preservation.Statements

/-!
Declarations are read back at the top of a source.
-/

namespace InterfaceMocks.Preservation

open InterfaceMocks.Syntax InterfaceMocks.Grammar
open InterfaceMocks.Written

/-! Sound declarations. -/

def ImportName.Sound : ImportName → Prop
  | .dot | .blank => True
  | .word text => IsName text ∧ text ≠ "_"

structure Import.Sound (spec : Import) : Prop where
  name : ∀ name ∈ spec.name, name.Sound
  path : spec.path.Sound

structure TypeSpec.Sound (spec : TypeSpec) : Prop where
  name : IsName spec.name
  target : spec.target.Sound

def Declaration.Sound : Declaration → Prop
  | .package text => IsName text
  | .import spec => spec.Sound
  | .imports specs => ∀ spec ∈ specs, spec.Sound
  | .type spec => spec.Sound
  | .types specs => ∀ spec ∈ specs, spec.Sound
  | .function receiver text parameters result body =>
      IsName text ∧ parameters.Sound ∧ result.Sound
        ∧ (∀ list ∈ receiver, list.Sound ∧ text ∉ typeWords)
        ∧ ∀ statements ∈ body, ∀ one ∈ statements, one.Sound

section Ends

variable {tail : List Token}

def EndsLine (tail : List Token) : Prop := tail = [] ∨ StartsLine tail

theorem EndsLine.ended (ends : EndsLine tail) : Ended true tail := by
  rintro next more rfl
  rcases ends with none | starts
  · simp at none
  · obtain ⟨next', more', same, line⟩ := startsLine_cons starts
    obtain ⟨rfl, -⟩ := List.cons.inj same
    exact .inl ⟨rfl, line⟩

end Ends

/-! Imports. -/

section Imports

variable {ends : Bool} {held : List Tree} {tail : List Token}

theorem Quote.tokens_tree (quote : Quote) (role : Role) (space : String) :
    (quote.tree role space).tokens =
      [token space (if quote.raw then .raw else .quoted) quote.text] := by
  cases raw : quote.raw <;> simp [Quote.tree, raw]

theorem Import.reads (spec : Import) (sound : spec.Sound) (space : String) :
    reading rules (.rule .importSpec) ⟨true, ends, held⟩
        ⟨(spec.tree space).tokens ++ tail, false⟩ =
      .done [spec.tree space] (Cursor.after tail true) := by
  obtain ⟨name, path⟩ := spec
  rw [reading_rule, rules, Statements.importSpec]
  cases name with
  | none =>
      cases raw : path.raw <;>
        simp [Import.tree, Quote.tree, raw, Statements.importName]
  | some label =>
      have labelSound := sound.name label rfl
      cases label with
      | dot =>
          cases raw : path.raw <;>
            simp [Import.tree, ImportName.tree, Quote.tree, raw, Statements.importName]
      | blank =>
          cases raw : path.raw <;>
            simp [Import.tree, ImportName.tree, Quote.tree, raw, Statements.importName, Written.name]
      | word text =>
          have other := labelSound.2
          cases raw : path.raw <;>
            simp [Import.tree, ImportName.tree, Quote.tree, raw, Statements.importName, Written.name,
              other]

theorem Import.start (spec : Import) (space : String) :
    ∃ lexeme text rest, (spec.tree space).tokens = token space lexeme text :: rest
      ∧ ¬ (lexeme = .mark ∧ text = "(") := by
  obtain ⟨name, path⟩ := spec
  cases name with
  | none =>
      refine ⟨_, _, [], by simp [Import.tree, Quote.tokens_tree]; rfl, ?_⟩
      cases path.raw <;> simp
  | some label =>
      cases label <;> exact ⟨_, _, _, rfl, by simp⟩

theorem Import.lineReads {spec : Import} (sound : spec.Sound) :
    LineReads (.rule .importSpec) (spec.tree (lineAt 1)) where
  starts tail := by
    obtain ⟨lexeme, text, rest, same, -⟩ := spec.start (lineAt 1)
    rw [same, List.cons_append]
    exact startsLine_token (by simp) _ _
  reads tail ends held starts := by
    have after : Cursor.after tail true = ⟨tail, true⟩ := starts
    rw [spec.reads sound, after]

theorem import_topReads {spec : Import} (sound : spec.Sound) (space : String) :
    TopReads ((Declaration.import spec).tree space) := by
  intro tail ends held _
  have here (ends : Bool) (held : List Tree) := @Import.reads ends held tail spec sound " "
  obtain ⟨lexeme, text, rest, same, other⟩ := spec.start " "
  have tokens : ((Declaration.import spec).tree space).tokens ++ tail =
      token space .word "import" :: token " " lexeme text :: (rest ++ tail) := by
    simp [Declaration.tree, same]
  rw [same, List.cons_append] at here
  rw [tokens]
  simp [Statements.package, Statements.importDeclaration, Statements.importList, other, here,
    Declaration.tree, keyword]

theorem imports_topReads {specs : List Import} (sound : ∀ spec ∈ specs, spec.Sound)
    (space : String) : TopReads ((Declaration.imports specs).tree space) := by
  intro tail ends held _
  generalize closing : (if specs.isEmpty then "" else "\n") = last
  have refused (setting : Setting) : reading rules (.rule .importSpec) setting
      ⟨token last .mark ")" :: tail, false⟩ = .mismatch :=
    reading_closed (.inr ⟨_, _, rfl, rfl, by simp [closers]⟩) (Gram.opens_rule _) setting
  have listed (ends : Bool) (held : List Tree) :
      reading rules (Types.terminated (.rule .importSpec)) ⟨false, ends, held⟩
          ⟨Tree.tokensOf (specs.map (Import.tree (lineAt 1))) ++ token last .mark ")" :: tail,
            false⟩ =
        .done (specs.map (Import.tree (lineAt 1))) ⟨token last .mark ")" :: tail, false⟩ := by
    refine reading_lines (fun tree member => ?_) (fun some => ?_) refused
    · obtain ⟨spec, among, rfl⟩ := List.mem_map.1 member
      exact Import.lineReads (sound spec among)
    · refine startsLine_token ?_ _ _
      cases specs with
      | nil => simp at some
      | cons => simp [← closing, breaks]
  rw [Declaration.tree, closing]
  simp [tokensOf_append, Statements.package, Statements.importDeclaration, Statements.importList,
    listed, keyword, mark]

end Imports

/-! Types. -/

section Types

variable {ends : Bool} {held : List Tree} {tail : List Token}

theorem TypeSpec.reads (spec : TypeSpec) (sound : spec.Sound) (grouped : Bool) (space : String)
    (indent : Nat) (line : EndsLine tail) :
    reading rules (.rule (.typeSpec grouped)) ⟨true, ends, held⟩
        ⟨(spec.tree space indent).tokens ++ tail, false⟩ =
      .done [spec.tree space indent] (Cursor.after tail true) := by
  obtain ⟨isAlias, name, target⟩ := spec
  have typed (ends : Bool) (held : List Tree) :
      reading rules (.rule .type) ⟨true, ends, held⟩ _ = _ :=
    (target.reads sound.target).whole .type " " indent line.ended
  have start := target.start .type " " indent tail
  rw [reading_rule, rules, Statements.typeSpec]
  cases isAlias with
  | true =>
      simp [TypeSpec.tree, Statements.typeAlias, typed, Written.name, mark, Ty.withRole_tree]
  | false =>
      have tokens : (TypeSpec.tree space indent ⟨false, name, target⟩).tokens ++ tail =
          token space .word name :: ((target.tree .type " " indent).tokens ++ tail) := by
        simp [TypeSpec.tree]
      have tree : TypeSpec.tree space indent ⟨false, name, target⟩ =
        .node .typeSpec .plain [Written.name .typeIdentifier .name space name,
          target.tree .type " " indent] := rfl
      rw [tokens, tree]
      generalize (target.tree .type " " indent).tokens ++ tail = rest at start typed
      -- neither an alias nor type parameters: what comes next shows it
      cases start <;>
        simp [Statements.typeAlias, Statements.longConstraint, typed, Written.name,
          Ty.withRole_tree]

theorem TypeSpec.starts (spec : TypeSpec) (space : String) (indent : Nat) :
    ∃ rest, (spec.tree space indent).tokens = token space .word spec.name :: rest := by
  obtain ⟨isAlias, name, target⟩ := spec
  cases isAlias <;> exact ⟨_, rfl⟩

/-- A declaration of types is read as a statement at the top of a source. -/
theorem reading_typeStatement {space : String} {tokens : List Token} {trees : List Tree}
    {rest : Cursor}
    (specs : ∀ ends held, reading rules (.alt (Statements.group (.rule (.typeSpec true)))
      (.rule (.typeSpec false))) ⟨true, ends, held⟩ ⟨tokens, false⟩ = .done trees rest) :
    reading rules topLevel ⟨true, ends, held⟩ ⟨token space .word "type" :: tokens, false⟩ =
      .done [.node .typeDeclaration .plain (keyword space "type" :: trees)] rest := by
  have flat : (Statements.group (.rule (.typeSpec true))).startsWithTerminator = false := rfl
  have needed : (Statements.group (.rule (.typeSpec true))).nullable = false := rfl
  have declared (ends : Bool) (held : List Tree) :
      reading rules (.rule .declaration) ⟨true, ends, held⟩
          ⟨token space .word "type" :: tokens, false⟩ =
        .done [.node .typeDeclaration .plain (keyword space "type" :: trees)] rest := by
    have here := specs true []
    rw [reading_alt] at here
    rw [reading_rule, rules, Statements.declaration]
    simp [flat, needed, here, keyword]
  have statement (ends : Bool) (held : List Tree) :
      reading rules (.rule (.statement .top)) ⟨true, ends, held⟩
          ⟨token space .word "type" :: tokens, false⟩ =
        .done [.node .typeDeclaration .plain (keyword space "type" :: trees)] rest := by
    rw [reading_rule, rules, Statements.statement]
    simp [Statements.labeled, Statements.label, Place.reserved, statementWords, declared]
  simp [Statements.package, Statements.importDeclaration, Statements.functionDeclaration,
    Statements.methodDeclaration, Statements.methodStart, statement]

theorem type_topReads {spec : TypeSpec} (sound : spec.Sound) (space : String) :
    TopReads ((Declaration.type spec).tree space) := by
  intro tail ends held line
  have here (ends : Bool) (held : List Tree) :=
    @TypeSpec.reads ends held tail spec sound false " " 0 line
  obtain ⟨rest, same⟩ := spec.starts " " 0
  have tokens : ((Declaration.type spec).tree space).tokens ++ tail =
      token space .word "type" :: ((spec.tree " " 0).tokens ++ tail) := by
    simp [Declaration.tree]
  rw [tokens, Declaration.tree]
  refine reading_typeStatement fun ends held => ?_
  have noGroup : reading rules (Statements.group (.rule (.typeSpec true))) ⟨true, ends, held⟩
      ⟨(spec.tree " " 0).tokens ++ tail, false⟩ = .mismatch := by
    simp [same, Statements.group]
  rw [reading_alt, noGroup, Reply.orElse_mismatch, here]

theorem reading_specs {specs : List TypeSpec} (sound : ∀ spec ∈ specs, spec.Sound) :
    reading rules (.many (.seq (.rule (.typeSpec true)) .terminator)) ⟨false, ends, held⟩
        ⟨Tree.tokensOf (specs.map (TypeSpec.tree (lineAt 1) 1)) ++ token "\n" .mark ")" :: tail,
          false⟩ =
      .done (specs.map (TypeSpec.tree (lineAt 1) 1)) ⟨token "\n" .mark ")" :: tail, false⟩ := by
  induction specs with
  | nil =>
      have refused (setting : Setting) : reading rules (.rule (.typeSpec true)) setting
          ⟨token "\n" .mark ")" :: tail, false⟩ = .mismatch :=
        reading_closed (.inr ⟨_, _, rfl, rfl, by simp [closers]⟩) (Gram.opens_rule _) setting
      rw [reading_many]
      simp [refused]
  | cons spec specs ih =>
      have later := ih fun other member => sound other (List.mem_cons_of_mem _ member)
      have starts : StartsLine (Tree.tokensOf (specs.map (TypeSpec.tree (lineAt 1) 1))
          ++ token "\n" .mark ")" :: tail) := by
        cases specs with
        | nil => exact startsLine_token (by simp [breaks]) _ _
        | cons next others =>
            obtain ⟨rest, same⟩ := next.starts (lineAt 1) 1
            simp only [List.map_cons, Tree.tokensOf, same, List.cons_append]
            exact startsLine_token (by simp) _ _
      have after : Cursor.after (Tree.tokensOf (specs.map (TypeSpec.tree (lineAt 1) 1))
          ++ token "\n" .mark ")" :: tail) true = ⟨_, true⟩ := starts
      have here (ends : Bool) (held : List Tree) := @TypeSpec.reads ends held _ spec
        (sound spec List.mem_cons_self) true (lineAt 1) 1 (.inr starts)
      rw [reading_many]
      simp [here, after, Cursor.terminator, later]

theorem types_topReads {specs : List TypeSpec} (sound : ∀ spec ∈ specs, spec.Sound)
    (space : String) : TopReads ((Declaration.types specs).tree space) := by
  intro tail ends held _
  have tokens : ((Declaration.types specs).tree space).tokens ++ tail =
      token space .word "type" :: token " " .mark "("
        :: (Tree.tokensOf (specs.map (TypeSpec.tree (lineAt 1) 1))
          ++ token "\n" .mark ")" :: tail) := by
    simp [Declaration.tree, tokensOf_append]
  rw [tokens, Declaration.tree]
  refine reading_typeStatement fun ends held => ?_
  simp [Statements.group, reading_specs sound, mark]

end Types

/-! Functions and methods. -/

section Functions

variable {ends : Bool} {held : List Tree} {tail : List Token} {parameters : Parameters}
  {result : Result} {body : Option (List Statement)}

theorem package_topReads (text space : String) :
    TopReads ((Declaration.package text).tree space) := by
  intro tail ends held _
  simp [Declaration.tree, Statements.package, keyword, name]

/-- What comes after the results: the body, or the end of the line. -/
theorem body_ended (line : EndsLine tail) :
    Ended true (Tree.tokensOf (body.toList.map bodyTree) ++ tail) := by
  cases body with
  | none => simpa using line.ended
  | some statements =>
      rintro next more same
      obtain ⟨rfl, -⟩ := List.cons.inj same
      exact .inr ⟨by simp, .inl ⟨rfl, by simp⟩⟩

theorem reading_functionBody (sound : ∀ statements ∈ body, ∀ one ∈ statements, one.Sound)
    (line : EndsLine tail) :
    reading rules Statements.body ⟨true, ends, held⟩
        (Cursor.after (Tree.tokensOf (body.toList.map bodyTree) ++ tail) true) =
      .done (body.toList.map bodyTree) (Cursor.after tail true) := by
  cases body with
  | none =>
      have none (setting : Setting) : reading rules (.rule .block) setting
          (Cursor.after tail true) = .mismatch := by
        refine reading_closed (.inl ?_) (Gram.opens_rule _) setting
        rcases line with rfl | starts
        · exact .inl rfl
        · rw [show Cursor.after tail true = _ from starts]
          exact .inr rfl
      simp [Statements.body, none]
  | some statements =>
      have flat : Cursor.after ((bodyTree statements).tokens ++ tail) true =
          ⟨(bodyTree statements).tokens ++ tail, false⟩ := by
        simp [bodyTree]
      simp [Statements.body, flat, reading_body (sound statements rfl)]
      simp [bodyTree]

@[simp] theorem body_nullable : Statements.body.nullable = true := rfl

@[simp] theorem body_flat : Statements.body.startsWithTerminator = false := rfl

theorem function_topReads {text : String}
    (sound : (Declaration.function none text parameters result body).Sound) (space : String) :
    TopReads ((Declaration.function none text parameters result body).tree space) := by
  intro tail ends held line
  obtain ⟨-, listed, resulted, -, bodied⟩ := sound
  have signature (ends : Bool) (held : List Tree) := @signature_reads true ends held _ _ _
    (parameters.reads listed) (result.reads resulted) 0 (body_ended line : Ended true
      (Tree.tokensOf (body.toList.map bodyTree) ++ tail))
  have tokens : ((Declaration.function none text parameters result body).tree space).tokens ++ tail =
      token space .word "func" :: token " " .word text ::
        ((listTree .parameters "" (parameters.trees 0)).tokens ++ (Tree.tokensOf (result.trees 0)
            ++ (Tree.tokensOf (body.toList.map bodyTree) ++ tail))) := by
    simp [Declaration.tree, tokensOf_append]
  rw [tokens]
  rw [tokens_list] at signature ⊢
  simp [Statements.package, Statements.importDeclaration, Statements.functionDeclaration,
    Types.typeParameters, signature, reading_functionBody bodied line, Declaration.tree, keyword,
    name]

theorem method_topReads {text : String} {receiver : Parameters}
    (sound : (Declaration.function (some receiver) text parameters result body).Sound)
    (space : String) :
    TopReads ((Declaration.function (some receiver) text parameters result body).tree space) := by
  intro tail ends held line
  obtain ⟨-, listed, resulted, received, bodied⟩ := sound
  obtain ⟨receives, plain⟩ := received receiver rfl
  have signature (ends : Bool) (held : List Tree) := @signature_reads true ends held _ _ _
    (parameters.reads listed) (result.reads resulted) 0 (body_ended line : Ended true
      (Tree.tokensOf (body.toList.map bodyTree) ++ tail))
  have first (ends : Bool) (held : List Tree) := receiver.reads receives .receiver " " 0 false ends
    held (token " " .word text :: ((listTree .parameters "" (parameters.trees 0)).tokens
      ++ (Tree.tokensOf (result.trees 0) ++ (Tree.tokensOf (body.toList.map bodyTree) ++ tail))))
  have tokens : ((Declaration.function (some receiver) text parameters result body).tree
        space).tokens ++ tail =
      token space .word "func" :: ((listTree .receiver " " (receiver.trees 0)).tokens
        ++ token " " .word text :: ((listTree .parameters "" (parameters.trees 0)).tokens
          ++ (Tree.tokensOf (result.trees 0)
            ++ (Tree.tokensOf (body.toList.map bodyTree) ++ tail)))) := by
    simp [Declaration.tree, tokensOf_append]
  rw [tokens]
  rw [tokens_list] at first ⊢
  simp [Statements.package, Statements.importDeclaration, Statements.functionDeclaration,
    Statements.methodDeclaration, first, plain, signature, reading_functionBody bodied line,
    Declaration.tree, keyword, name]
  simp [listTree]

theorem Declaration.reads {declaration : Declaration} (sound : declaration.Sound) (space : String) :
    TopReads (declaration.tree space) := by
  cases declaration with
  | package text => exact package_topReads text space
  | «import» spec => exact import_topReads sound space
  | imports specs => exact imports_topReads sound space
  | type spec => exact type_topReads sound space
  | types specs => exact types_topReads sound space
  | function receiver text parameters result body =>
      cases receiver with
      | none => exact function_topReads sound space
      | some receiver => exact method_topReads sound space

end Functions

end InterfaceMocks.Preservation
