import InterfaceMocks.Extraction.Interfaces
import InterfaceMocks.Log

/-!
The messages that go with extraction: which interfaces were found, which of their elements are no
methods, and which forms of type were not recognised.
-/

namespace InterfaceMocks.Extraction

open InterfaceMocks.Syntax
open InterfaceMocks.Grammar (Source)
open InterfaceMocks.Log (Entry)

def unsupported (text label : String) : Entry :=
  Log.debug s!"Unsupported type form `{text}` ({label})"

mutual

def typeRemarks : Tree → List Entry
  | .leaf kind role token =>
      match kind with
      | .typeIdentifier | .identifier => []
      | _ => [unsupported (Tree.leaf kind role token).text kind.label]
  | .node kind role children =>
      match kind with
      | .qualifiedType => []
      | .pointerType => firstRemarks false children
      | .sliceType | .arrayType => elementRemarks children
      | _ => [unsupported (Syntax.Tree.node kind role children).text kind.label]

def firstRemarks (commented : Bool) : List Tree → List Entry
  | [] => []
  | tree :: rest =>
      match commented, tree.lead.filterMap Gap.comment? with
      | true, text :: _ => [unsupported text "comment"]
      | _, _ => if tree.isNamed then typeRemarks tree else firstRemarks true rest

def elementRemarks : List Tree → List Entry
  | [] => []
  | tree :: rest => if tree.role = .element then typeRemarks tree else elementRemarks rest

end

def paramRemarks (list : Tree) : List Entry :=
  list.children.flatMap fun tree =>
    if tree.kind = .parameterDeclaration then ((tree.child? .type).map typeRemarks).getD []
    else []

def resultRemarks (result : Tree) : List Entry :=
  if result.kind = .parameterList then paramRemarks result else typeRemarks result

def elementOfInterfaceRemarks (interface : String) (element : Tree) : List Entry :=
  if element.kind = .methodElement then
    ((element.child? .parameters).map paramRemarks).getD []
      ++ ((element.child? .result).map resultRemarks).getD []
  else if element.isNamed then
    [Log.debug s!"Skipping embedded element `{element.text}` of interface {interface}"]
  else []

def interfaceRemarks (spec : Tree) : List Entry :=
  match interfaceOf? spec, spec.child? .type with
  | some interface, some type =>
      type.children.flatMap (elementOfInterfaceRemarks interface.name)
        ++ [Log.debug
          s!"Found interface {interface.name} with {interface.methods.length} method(s)"]
  | _, _ => []

def remarks (source : Source) : List Entry :=
  source.declarations.flatMap fun declaration =>
    if declaration.kind = .typeDeclaration then
      (declaration.childrenOf .typeSpec).flatMap interfaceRemarks
    else []

end InterfaceMocks.Extraction
