import InterfaceMocks.Proofs.Mock.Soundness

/-!
Plain packages: all names are ordinary identifiers, and nothing has to be escaped. What is generated
for such a package is read back as exactly the declarations that mock its interfaces.
-/

namespace InterfaceMocks

open InterfaceMocks.Syntax
open InterfaceMocks.Text
open InterfaceMocks.Grammar
open InterfaceMocks.Written
open InterfaceMocks.Placeholder

def keywords : List String :=
  ["break", "case", "chan", "const", "continue", "default", "defer", "else", "fallthrough", "for",
   "func", "go", "goto", "if", "import", "interface", "map", "package", "range", "return", "select",
   "struct", "switch", "type", "var"]

/-- An identifier that starts with an underscore or an ASCII letter, and is no keyword. -/
def isPlainName (text : String) : Bool :=
  Identifier.isIdentifier text && (text.toList.head?.any fun c => c == '_' || c.isAlpha)
    && !keywords.contains text

def TypeExpr.isPlain : TypeExpr → Bool
  | named text => isPlainName text
  | qualified package text => isPlainName package && isPlainName text
  | pointer inner => inner.isPlain
  | array length element => length.all Number.isInt && element.isPlain
  | unrecognised => true

def Param.isPlain (param : Param) : Bool :=
  (param.name == "" || isPlainName param.name) && param.type.isPlain

def Method.isPlain (method : Method) : Bool :=
  isPlainName method.name && method.args.all Param.isPlain && method.returns.all Param.isPlain
    && isUniform method.returns

def Interface.isPlain (interface : Interface) : Bool :=
  isPlainName interface.name && interface.methods.all Method.isPlain

/-- Whether all that a package names is plain. -/
def Package.isPlain (package : Package) : Bool :=
  isPlainName package.name
    && (package.imports.entries.all fun entry =>
      (entry.2 == "" || entry.2 == "." || isPlainName entry.2) && isPlainPath entry.1)
    && package.interfaces.all Interface.isPlain

namespace Mock

section Names

variable {text : String} (plain : isPlainName text = true)

include plain

theorem isName_of_plain : IsName text := by
  simp only [isPlainName, Bool.and_eq_true] at plain
  exact plain.1.1

theorem cased_of_plain : isCased text = true := by
  simp only [isPlainName, Bool.and_eq_true, Option.any_eq_true] at plain
  obtain ⟨c, first, letter⟩ := plain.1.2
  simpa [isCased, first] using letter

theorem not_typeWord_of_plain : isTypeWord text = false := by
  have all : ∀ word ∈ typeWords, word ∈ keywords := by decide
  simp only [isPlainName, Bool.and_eq_true, Bool.not_eq_true', List.contains_eq_mem,
    decide_eq_false_iff_not] at plain
  simpa [isTypeWord] using fun member => plain.2 (all text member)

end Names

/-! A plain package is tame, and its names are identifiers. -/

theorem type_of_plain {expr : TypeExpr} (plain : expr.isPlain = true) :
    expr.Named ∧ expr.isTame = true := by
  induction expr with
  | named text =>
      exact ⟨isName_of_plain plain, by simpa [TypeExpr.isTame] using not_typeWord_of_plain plain⟩
  | qualified package text =>
      simp only [TypeExpr.isPlain, Bool.and_eq_true] at plain
      exact ⟨⟨isName_of_plain plain.1, isName_of_plain plain.2⟩,
        by simpa [TypeExpr.isTame] using not_typeWord_of_plain plain.1⟩
  | pointer inner ih => exact ih plain
  | array length element ih =>
      simp only [TypeExpr.isPlain, Bool.and_eq_true] at plain
      exact ⟨(ih plain.2).1, by simp [TypeExpr.isTame, plain.1, (ih plain.2).2]⟩
  | unrecognised => exact ⟨trivial, rfl⟩

theorem param_of_plain {param : Param} (plain : param.isPlain = true) :
    param.Named ∧ param.isTame = true := by
  simp only [Param.isPlain, Bool.and_eq_true, Bool.or_eq_true, beq_iff_eq] at plain
  obtain ⟨name, type⟩ := plain
  obtain ⟨named, tame⟩ := type_of_plain type
  have word : isTypeWord param.name = false := by
    rcases name with none | name
    · rw [none]
      rfl
    · exact not_typeWord_of_plain name
  exact ⟨⟨fun some => isName_of_plain (name.resolve_left some), named⟩,
    by simp [Param.isTame, word, tame]⟩

theorem method_of_plain {method : Method} (plain : method.isPlain = true) :
    method.Named ∧ method.isTame = true := by
  simp only [Method.isPlain, Bool.and_eq_true, List.all_eq_true] at plain
  obtain ⟨⟨⟨name, args⟩, returns⟩, uniform⟩ := plain
  refine ⟨⟨isName_of_plain name, fun param member => (param_of_plain (args param member)).1,
    fun param member => (param_of_plain (returns param member)).1⟩, ?_⟩
  simp only [Method.isTame, not_typeWord_of_plain name, cased_of_plain name, uniform,
    Bool.and_eq_true, List.all_eq_true, Bool.not_false, and_true, true_and]
  exact ⟨fun param member => (param_of_plain (args param member)).2,
    fun param member => (param_of_plain (returns param member)).2⟩

theorem interface_of_plain {interface : Interface} (plain : interface.isPlain = true) :
    interface.Named ∧ interface.isTame = true := by
  simp only [Interface.isPlain, Bool.and_eq_true, List.all_eq_true] at plain
  obtain ⟨name, methods⟩ := plain
  refine ⟨⟨isName_of_plain name, fun method member => (method_of_plain (methods method member)).1⟩, ?_⟩
  simp only [Interface.isTame, cased_of_plain name, Bool.true_and, List.all_eq_true]
  exact fun method member => (method_of_plain (methods method member)).2

theorem package_of_plain {package : Package} (plain : package.isPlain = true) :
    package.Named ∧ package.isTame = true := by
  simp only [Package.isPlain, Bool.and_eq_true, List.all_eq_true, Bool.or_eq_true, beq_iff_eq,
    or_assoc] at plain
  obtain ⟨⟨name, imports⟩, interfaces⟩ := plain
  refine ⟨⟨isName_of_plain name, fun entry found => ?_,
    fun interface found => (interface_of_plain (interfaces interface found)).1⟩, ?_⟩
  · exact (imports entry found).1.imp_right (Or.imp_right isName_of_plain)
  · simp only [Package.isTame, Bool.and_eq_true, List.all_eq_true]
    exact ⟨fun entry found => (imports entry found).2,
      fun interface found => (interface_of_plain (interfaces interface found)).2⟩

theorem sound_of_plain {package : Package} (plain : package.isPlain = true) : Sound package :=
  sound_of_named (package_of_plain plain).1 (package_of_plain plain).2

/-- For every plain package, mocks are generated, and what is generated is read back as exactly the
declarations that mock the package: its clause, its imports in the order of their paths, and for each
interface a struct with a function field for each method, followed by the methods that call them. -/
theorem generate_faithful (package : Package) (plain : package.isPlain = true) :
    ∃ text source, generate? package = some text
      ∧ Source.parse? (protect (choose text) text) = some source
      ∧ source.declarations = mocks Spacing.canonical (package.fill (choose text)) := by
  have sound := sound_of_plain plain
  obtain ⟨n, chosen, -⟩ := choose_fresh (writtenOf (mocks Spacing.canonical package) ++ "\n")
  refine ⟨_, _, generate_eq sound, chosen ▸ parse_generated sound n, ?_⟩
  rw [chosen, Source.declarations, List.filter_eq_self]
  exact fun tree member => (bare_mocks Spacing.canonical _ tree member).named

/-- A package with an unrecognised type, an argument without a name and an interface without
methods. -/
def samplePackage : Package where
  name := "storage"
  imports := Imports.empty.extend [("encoding/json", "j"), ("context", "")]
  interfaces :=
    [⟨"Store",
      [⟨"Load", [⟨"ctx", .qualified "context" "Context"⟩, ⟨"", .array (some "16") (.named "byte")⟩],
        [⟨"", .pointer (.named "Item")⟩, ⟨"", .named "error"⟩]⟩,
       ⟨"Watch", [⟨"m", .unrecognised⟩], [⟨"", .array none .unrecognised⟩]⟩]⟩,
     ⟨"marker", []⟩]

theorem generate_faithful_samplePackage :
    samplePackage.isPlain = true ∧ ∃ text source, generate? samplePackage = some text
      ∧ Source.parse? (protect (choose text) text) = some source
      ∧ source.declarations = mocks Spacing.canonical (samplePackage.fill (choose text)) :=
  ⟨by decide, generate_faithful samplePackage (by decide)⟩

end Mock

end InterfaceMocks
