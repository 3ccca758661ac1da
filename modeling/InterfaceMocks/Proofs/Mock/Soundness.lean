import InterfaceMocks.Proofs.Mock.Generation

/-!
Packages whose mocks are generated without loss. Two things are asked of a package: that its names are
identifiers, and that it is tame, which is about the places where a name or a path could be taken for
something else once it is written.
-/

namespace InterfaceMocks

open InterfaceMocks.Syntax
open InterfaceMocks.Text
open InterfaceMocks.Grammar
open InterfaceMocks.Written
open InterfaceMocks.Placeholder

/-! Names that are identifiers. -/

def TypeExpr.Named : TypeExpr → Prop
  | named text => IsName text
  | qualified package text => IsName package ∧ IsName text
  | pointer inner => inner.Named
  | array _ element => element.Named
  | unrecognised => True

structure Param.Named (param : Param) : Prop where
  name : param.name ≠ "" → IsName param.name
  type : param.type.Named

structure Method.Named (method : Method) : Prop where
  name : IsName method.name
  args : ∀ param ∈ method.args, param.Named
  returns : ∀ param ∈ method.returns, param.Named

structure Interface.Named (interface : Interface) : Prop where
  name : IsName interface.name
  methods : ∀ method ∈ interface.methods, method.Named

structure Package.Named (package : Package) : Prop where
  name : IsName package.name
  labels : ∀ entry ∈ package.imports.entries, entry.2 = "" ∨ entry.2 = "." ∨ IsName entry.2
  interfaces : ∀ interface ∈ package.interfaces, interface.Named

/-! What else could go wrong. -/

/-- A path that can be written in quotes as it is, and holds no unrecognised type. -/
def isPlainPath (path : String) : Bool :=
  path.toList.all fun c => !(['\x22', '\x60', '\\', '<', '\n', '\x00'].contains c)

def isUniform (params : List Param) : Bool :=
  (params.all fun param => param.name != "") || params.all fun param => param.name == ""

/-- Whether a name starts with an underscore or an ASCII letter, so that its case can be changed. -/
def isCased (text : String) : Bool := text.toList.head?.all fun c => c == '_' || c.isAlpha

def isTypeWord (text : String) : Bool := typeWords.contains text

/-- No name in the type starts a type of another form, and each length is a number. -/
def TypeExpr.isTame : TypeExpr → Bool
  | named text => !isTypeWord text
  | qualified package _ => !isTypeWord package
  | pointer inner => inner.isTame
  | array length element => length.all Number.isInt && element.isTame
  | unrecognised => true

def Param.isTame (param : Param) : Bool := !isTypeWord param.name && param.type.isTame

def Method.isTame (method : Method) : Bool :=
  !isTypeWord method.name && isCased method.name && method.args.all Param.isTame
    && method.returns.all Param.isTame && isUniform method.returns

def Interface.isTame (interface : Interface) : Bool :=
  isCased interface.name && interface.methods.all Method.isTame

/-- Whether nothing in a package is taken for something else once it is written. -/
def Package.isTame (package : Package) : Bool :=
  (package.imports.entries.all fun entry => isPlainPath entry.1)
    && package.interfaces.all Interface.isTame

namespace Mock

theorem not_mem_typeWords {text : String} (tame : isTypeWord text = false) : text ∉ typeWords := by
  simpa [isTypeWord] using tame

theorem startsPlain_of_cased {text : String} (cased : isCased text = true) : StartsPlain text := by
  simpa [isCased, StartsPlain, Option.all_eq_true] using cased

theorem candidate_not_typeWord (n : Nat) : candidate n ∉ typeWords := by
  obtain ⟨more, start⟩ := candidate_start n
  have all : ∀ word ∈ typeWords, word.toList.head? ≠ some '_' := by decide
  exact fun member => all _ member (by simp [start])

theorem length_clear {text : String} (int : Number.isInt text = true) : Clear text :=
  Pattern.not_mem_of_avoids (by decide) int

section Types

variable {expr : TypeExpr} (named : expr.Named) (tame : expr.isTame = true)

include tame

theorem typeReadable_fill (n : Nat) : TypeReadable (expr.fill (candidate n)) := by
  induction expr with
  | named text => exact not_mem_typeWords (by simpa [TypeExpr.isTame] using tame)
  | qualified package text => exact not_mem_typeWords (by simpa [TypeExpr.isTame] using tame)
  | pointer inner ih => exact ih tame
  | array length element ih =>
      simp only [TypeExpr.isTame, Bool.and_eq_true] at tame
      cases length with
      | none => exact ih tame.2
      | some text =>
          have literal := (literalStands_int tame.1).2
          exact ⟨by simp [literal], by simp [literal], ih tame.2⟩
  | unrecognised => exact candidate_not_typeWord n

include named

theorem typeSpelled_fill (n : Nat) : TypeSpelled (expr.fill (candidate n)) := by
  induction expr with
  | named text => exact named
  | qualified package text => exact named
  | pointer inner ih => exact ih named tame
  | array length element ih =>
      simp only [TypeExpr.isTame, Bool.and_eq_true] at tame
      cases length with
      | none => exact ih named tame.2
      | some text => exact ⟨(literalStands_int tame.1).1, ih named tame.2⟩
  | unrecognised => exact candidate_isIdentifier n

theorem typeClear_of_named : TypeClear expr := by
  induction expr with
  | named text => exact clear_of_isName named
  | qualified package text => exact ⟨clear_of_isName named.1, clear_of_isName named.2⟩
  | pointer inner ih => exact ih named tame
  | array length element ih =>
      simp only [TypeExpr.isTame, Bool.and_eq_true] at tame
      refine ⟨fun text found => ?_, ih named tame.2⟩
      subst found
      exact length_clear tame.1
  | unrecognised => trivial

end Types

section Params

variable {param : Param} (named : param.Named) (tame : param.isTame = true)

include tame

theorem param_tame : param.name ∉ typeWords ∧ param.type.isTame = true := by
  simp only [Param.isTame, Bool.and_eq_true, Bool.not_eq_true'] at tame
  exact ⟨not_mem_typeWords tame.1, tame.2⟩

theorem param_reads (n : Nat) : ParamReads (param.fill (candidate n)) where
  name _ := (param_tame tame).1
  type := typeReadable_fill (param_tame tame).2 n

include named

theorem param_spelled (n : Nat) : ParamSpelled (param.fill (candidate n)) where
  name := named.name
  type := typeSpelled_fill named.type (param_tame tame).2 n

theorem param_clear : ParamClear param where
  name := named.name
  type := typeClear_of_named named.type (param_tame tame).2

end Params

section Methods

variable {method : Method} (named : method.Named) (tame : method.isTame = true)

include tame

theorem method_tame : method.name ∉ typeWords ∧ StartsPlain method.name
    ∧ (∀ param ∈ method.args, param.isTame = true)
    ∧ (∀ param ∈ method.returns, param.isTame = true) ∧ Uniform method.returns := by
  simp only [Method.isTame, Bool.and_eq_true, Bool.not_eq_true', List.all_eq_true, isUniform,
    Bool.or_eq_true, bne_iff_ne, beq_iff_eq] at tame
  obtain ⟨⟨⟨⟨word, cased⟩, args⟩, returns⟩, uniform⟩ := tame
  exact ⟨not_mem_typeWords word, startsPlain_of_cased cased, args, returns, uniform⟩

/-- What an argument is handed on as is as tame as the argument. -/
theorem arguments_tame : ∀ param ∈ Forwarding.arguments method, param.isTame = true := by
  obtain ⟨-, -, args, -⟩ := method_tame tame
  intro param member
  rcases arguments_spec member with ⟨found, -, -⟩ | ⟨original, found, index, rfl⟩
  · exact args param found
  · have word : isTypeWord (Forwarding.renamed (method.returns.map Param.name) index
        original).name = false := by
      simpa [isTypeWord] using renamed_plain (method.returns.map Param.name) index original
    rw [Param.isTame, word]
    exact (param_tame (args original found)).2

omit tame
include named

theorem arguments_isNamed : ∀ param ∈ Forwarding.arguments method, param.Named := by
  intro param member
  rcases arguments_spec member with ⟨found, -, -⟩ | ⟨original, found, index, rfl⟩
  · exact named.args param found
  · exact ⟨fun _ => renamed_isName .., (named.args original found).type⟩

include tame

theorem fieldName_of_named : IsName (Naming.fieldName method.name) :=
  fieldName_isName (title_continues named.name (method_tame tame).2.1)

theorem method_clear : MethodClear method where
  name := named.name
  field := fieldName_of_named named tame
  args param member := param_clear (arguments_isNamed named param member)
    (arguments_tame tame param member)
  returns param member := param_clear (named.returns param member)
    ((method_tame tame).2.2.2.1 param member)

variable {spacing : Spacing} (listing : spacing.Listing) (n : Nat)

include listing

omit named in
theorem method_reads : MethodReads spacing (method.fill (candidate n)) := by
  obtain ⟨word, -, -, returns, uniform⟩ := method_tame tame
  have handed : ∀ param ∈ Forwarding.arguments (method.fill (candidate n)),
      ParamReads param ∧ param.name ≠ "" := by
    rw [arguments_fill]
    exact List.forall_mem_map.2 fun param member =>
      ⟨param_reads (arguments_tame tame param member) n,
        (arguments_named member : param.name ≠ "")⟩
  have results : ∀ param ∈ (method.fill (candidate n)).returns, ParamReads param :=
    List.forall_mem_map.2 fun param member => param_reads (returns param member) n
  have uniform : Uniform (method.fill (candidate n)).returns := by
    simpa [Uniform, Method.fill, Param.fill] using uniform
  refine ⟨word, fun param member => (handed param member).1.name (handed param member).2, ?_⟩
  exact ⟨slots_read (fun param member => (handed param member).1)
    (.inl fun param member => (handed param member).2),
    listing.reads _ (slots_read results uniform)⟩

theorem method_spelled (fits : spacing.Fits) : MethodSpelled spacing (method.fill (candidate n)) := by
  obtain ⟨-, -, -, returns, -⟩ := method_tame tame
  have handed : ∀ param ∈ Forwarding.arguments (method.fill (candidate n)),
      ParamSpelled param ∧ param.name ≠ "" := by
    rw [arguments_fill]
    exact List.forall_mem_map.2 fun param member =>
      ⟨param_spelled (arguments_isNamed named param member) (arguments_tame tame param member) n,
        (arguments_named member : param.name ≠ "")⟩
  have results : ∀ param ∈ (method.fill (candidate n)).returns, ParamSpelled param :=
    List.forall_mem_map.2 fun param member =>
      param_spelled (named.returns param member) (returns param member) n
  have field : IsName (Naming.fieldName method.name) := fieldName_of_named named tame
  refine ⟨named.name, field,
    fun param member => (handed param member).1.name (handed param member).2, ?_⟩
  exact ⟨slots_spelled fits.unnamed fun param member => (handed param member).1,
    listing.spelled _ (slots_spelled fits.unnamed results)⟩

end Methods

section Interfaces

variable {interface : Interface} (named : interface.Named) (tame : interface.isTame = true)

include tame

theorem interface_tame : StartsPlain interface.name
    ∧ ∀ method ∈ interface.methods, method.isTame = true := by
  simp only [Interface.isTame, Bool.and_eq_true, List.all_eq_true] at tame
  exact ⟨startsPlain_of_cased tame.1, tame.2⟩

include named

theorem interface_names :
    IsName (Naming.structName interface.name) ∧ IsName (Naming.receiverName interface.name) := by
  obtain ⟨start, -⟩ := interface_tame tame
  exact ⟨structName_isName (title_continues named.name start), receiverName_isName named.name start⟩

theorem interface_clear : InterfaceClear interface where
  struct := (interface_names named tame).1
  receiver := (interface_names named tame).2
  methods method member := method_clear (named.methods method member)
    ((interface_tame tame).2 method member)

theorem interface_writable {spacing : Spacing} (fits : spacing.Fits) (listing : spacing.Listing)
    (n : Nat) : InterfaceWritable spacing (interface.fill (candidate n)) where
  struct := (interface_names named tame).1
  receiver := (interface_names named tame).2
  reads := by
    intro method member
    obtain ⟨original, found, rfl⟩ := List.mem_map.1 member
    exact method_reads ((interface_tame tame).2 original found) listing n
  spelled := by
    intro method member
    obtain ⟨original, found, rfl⟩ := List.mem_map.1 member
    exact method_spelled (named.methods original found) ((interface_tame tame).2 original found)
      listing n fits

end Interfaces

theorem plainPath_clear {path : String} (plain : isPlainPath path = true) :
    Quotable path ∧ Clear path := by
  simp only [isPlainPath, List.all_eq_true, Bool.not_eq_true', List.contains_eq_mem,
    decide_eq_false_iff_not, List.mem_cons, List.not_mem_nil, or_false, not_or] at plain
  refine ⟨quotable_plain fun c member => ?_, fun member => ?_⟩
  · exact ⟨(plain c member).1, (plain c member).2.2.2.2.1, (plain c member).2.2.1⟩
  · exact (plain _ member).2.2.2.1 rfl

/-- A tame package whose names are identifiers has its mocks. -/
theorem sound_of_named {package : Package} (named : package.Named) (tame : package.isTame = true) :
    Sound package := by
  simp only [Package.isTame, Bool.and_eq_true, List.all_eq_true] at tame
  obtain ⟨paths, interfaces⟩ := tame
  refine ⟨named.name, fun entry found => ?_, fun interface found => ?_,
    fun suits n interface found => ?_⟩
  · obtain ⟨quotable, clear⟩ := plainPath_clear (paths entry found)
    exact ⟨⟨named.labels entry found, quotable⟩, clear⟩
  · exact interface_clear (named.interfaces interface found) (interfaces interface found)
  · exact interface_writable (named.interfaces interface found) (interfaces interface found)
      suits.fits suits.listing n

end Mock

end InterfaceMocks
