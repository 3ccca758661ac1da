import InterfaceMocks.Proofs.Written.Filling

/-!
The texts of written constructs.
-/

namespace InterfaceMocks.Written

open InterfaceMocks.Syntax
open InterfaceMocks.Grammar (tokensOf_append)

def written (tree : Tree) : String := String.join (tree.tokens.map Token.source)

def writtenOf (trees : List Tree) : String := String.join ((Tree.tokensOf trees).map Token.source)

section Texts

variable (space text : String)

@[simp] theorem token_source (lexeme : Lexeme) : (token space lexeme text).source = space ++ text := by
  simp [Token.source, token, gap_text]

@[simp] theorem written_mark : written (mark space text) = space ++ text := by
  simp [written]

@[simp] theorem written_keyword : written (keyword space text) = space ++ text := by
  simp [written]

@[simp] theorem written_name (kind : Kind) (role : Role) :
    written (name kind role space text) = space ++ text := by
  simp [written]

@[simp] theorem written_leaf (kind : Kind) (role : Role) (token : Token) :
    written (.leaf kind role token) = token.source := by
  simp [written]

@[simp] theorem written_node (kind : Kind) (role : Role) (children : List Tree) :
    written (.node kind role children) = writtenOf children := by
  simp [written, writtenOf]

@[simp] theorem writtenOf_nil : writtenOf [] = "" := by
  simp [writtenOf]

@[simp] theorem writtenOf_cons (tree : Tree) (rest : List Tree) :
    writtenOf (tree :: rest) = written tree ++ writtenOf rest := by
  simp [writtenOf, written, String.join_append]

@[simp] theorem writtenOf_append (first second : List Tree) :
    writtenOf (first ++ second) = writtenOf first ++ writtenOf second := by
  simp [writtenOf, tokensOf_append]

theorem writtenOf_eq_join (trees : List Tree) : writtenOf trees = String.join (trees.map written) := by
  induction trees with
  | nil => simp
  | cons tree rest ih => simp [ih]

@[simp] theorem written_type (role : Role) (expr : TypeExpr) :
    written (type role space expr) = space ++ expr.render := by
  induction expr generalizing role space with
  | named text => simp [type, TypeExpr.render]
  | qualified package text => simp [type, TypeExpr.render, String.append_assoc]
  | pointer inner ih => simp [type, TypeExpr.render, ih, String.append_assoc]
  | array length element ih =>
      cases length with
      | none =>
          apply String.toList_injective
          simp [type, TypeExpr.render, ih]
      | some text => simp [type, TypeExpr.render, Written.length, ih, String.append_assoc]
  | unrecognised => simp [type, TypeExpr.render]

end Texts

theorem intercalate_cons (separator first : String) (rest : List String) :
    separator.intercalate (first :: rest) =
      first ++ String.join (rest.map fun text => separator ++ text) := by
  induction rest generalizing first with
  | nil => simp
  | cons second rest ih => simp [String.intercalate_cons_cons, ih, String.append_assoc]

theorem writtenOf_commas (trees : List Tree) :
    writtenOf (commas trees) = ",".intercalate (trees.map written) := by
  cases trees with
  | nil => simp [commas]
  | cons first rest =>
      have later : writtenOf (rest.flatMap fun tree => [mark "" ",", tree]) =
          String.join ((rest.map written).map fun text => "," ++ text) := by
        induction rest with
        | nil => simp
        | cons second rest ih => simp [ih, String.append_assoc]
      simp [commas, intercalate_cons, later]

def Slot.text (slot : Slot) : String :=
  if slot.names.isEmpty then slot.type.render
  else ", ".intercalate slot.names ++ " " ++ slot.type.render

/-- Names with commas between them, however they are read. -/
theorem writtenOf_names (kind : String → Kind) (role : Role) (first : String)
    (names : List String) :
    first ++ writtenOf (names.flatMap fun text => [mark "" ",", name (kind text) role " " text]) =
      ", ".intercalate (first :: names) := by
  have later : writtenOf (names.flatMap fun text =>
      [mark "" ",", name (kind text) role " " text]) =
        String.join (names.map fun text => ", " ++ text) := by
    induction names with
    | nil => simp
    | cons second names ih =>
        apply String.toList_injective
        simp [ih]
  rw [intercalate_cons, later]

theorem written_slot (slot : Slot) : written slot.tree = slot.space ++ slot.text := by
  obtain ⟨space, names, expr⟩ := slot
  cases names with
  | nil => simp [Slot.tree, Slot.trees, Slot.text]
  | cons first names =>
      have listed := writtenOf_names (fun _ => .identifier) .name first names
      simp [Slot.tree, Slot.trees, Slot.text, ← listed, String.append_assoc]

theorem written_parameters (role : Role) (space : String) (slots : List Slot) :
    written (parameters role space slots) =
      space ++ "(" ++ ",".intercalate (slots.map fun slot => slot.space ++ slot.text) ++ ")" := by
  have each : written ∘ Slot.tree = fun slot => slot.space ++ slot.text := by
    funext slot
    exact written_slot slot
  simp [parameters, writtenOf_commas, each, String.append_assoc]

def Result.text : Result → String
  | none => ""
  | lone space type => space ++ type.render
  | list space slots =>
      space ++ "(" ++ ",".intercalate (slots.map fun slot => slot.space ++ slot.text) ++ ")"

theorem writtenOf_signature (signature : Signature) :
    writtenOf signature.trees =
      "(" ++ ",".intercalate (signature.args.map fun slot => slot.space ++ slot.text) ++ ")"
        ++ signature.result.text := by
  cases result : signature.result <;>
    simp [Signature.trees, result, Result.trees, Result.text, written_parameters,
      String.append_assoc]

theorem writtenOf_arguments (names : List String) :
    writtenOf (arguments names) = ", ".intercalate names := by
  cases names with
  | nil => simp [arguments]
  | cons first names =>
      have listed := writtenOf_names operandKind .plain first names
      simpa [arguments] using listed

theorem written_call (space receiver field : String) (args : List String) :
    written (call space receiver field args) =
      space ++ receiver ++ "." ++ field ++ "(" ++ ", ".intercalate args ++ ")" := by
  simp [call, writtenOf_arguments, String.append_assoc]

theorem written_importLine (line : ImportLine) :
    written line.tree = line.space
      ++ (if line.label = "" then quoted line.path else line.label ++ " " ++ quoted line.path) := by
  apply String.toList_injective
  simp only [ImportLine.tree, ImportLine.trees, ImportLine.path?]
  split
  · simp
  · split
    · simp_all
    · split <;> simp_all

end InterfaceMocks.Written
