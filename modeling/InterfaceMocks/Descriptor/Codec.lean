import InterfaceMocks.Descriptor.Package
import InterfaceMocks.Json.Pretty

/-!
Descriptors as JSON. Each type is an object whose `kind` tells its form. Reading ignores fields it
does not know; a record may also be given as the array of its fields in order, and a type as the array
of its kind and its fields.
-/

namespace InterfaceMocks

open InterfaceMocks.Json

namespace Codec

/-- A field of an object by its name, or by its place in an array of so many fields. -/
def field? (count index : Nat) (name : String) : Value → Option Value
  | .object fields => fields.lookup name
  | .array items => if items.length = count then items[index]? else none
  | _ => none

def stringField? (count index : Nat) (name : String) (value : Value) : Option String :=
  (field? count index name value).bind Value.string?

def listField? {α : Type} (count index : Nat) (name : String) (item? : Value → Option α)
    (value : Value) : Option (List α) :=
  ((field? count index name value).bind Value.array?).bind (List.mapM item?)

def strings? : Value → Option (List (String × String))
  | .object fields => fields.mapM fun field => field.2.string?.map (field.1, ·)
  | _ => none

def optionalString? : Option Value → Option (Option String)
  | none => some none
  | some .null => some none
  | some (.string text) => some (some text)
  | some _ => none

end Codec

open Codec

namespace TypeExpr

def toJson : TypeExpr → Value
  | named name => .object [("kind", .string "ident"), ("name", .string name)]
  | qualified package name =>
      .object [("kind", .string "qualified"), ("package", .string package), ("name", .string name)]
  | pointer inner => .object [("kind", .string "pointer"), ("inner", inner.toJson)]
  | array length element =>
      .object <| [("kind", .string "array_or_slice")]
        ++ (length.map fun text => ("len", Value.string text)).toList
        ++ [("elem", element.toJson)]
  | unrecognised => .object [("kind", .string "unrecognised")]

def kinds : List String := ["ident", "qualified", "pointer", "array_or_slice", "unrecognised"]

/-- The kind that a value names. Within another type a kind may also be given by its number. -/
def kind? (within : Bool) : Value → Option String
  | .string name => some name
  | .number text =>
      if within then kinds.zipIdx.findSome? fun (name, index) =>
        if toString index = text then some name else none
      else none
  | _ => none

mutual

def read? (within : Bool) : Value → Option TypeExpr
  | .object fields =>
      match (fields.lookup "kind").bind (kind? within) with
      | some "ident" => ((fields.lookup "name").bind Value.string?).map named
      | some "qualified" =>
          ((fields.lookup "package").bind Value.string?).bind fun package =>
            ((fields.lookup "name").bind Value.string?).map (qualified package)
      | some "pointer" => (readField? "inner" fields).map pointer
      | some "array_or_slice" =>
          (optionalString? (fields.lookup "len")).bind fun length =>
            (readField? "elem" fields).map (array length)
      | some "unrecognised" => some unrecognised
      | _ => none
  | .array [tag] => if kind? within tag = some "unrecognised" then some unrecognised else none
  | .array [tag, only] =>
      match kind? within tag with
      | some "ident" => only.string?.map named
      | some "pointer" => (read? true only).map pointer
      | _ => none
  | .array [tag, first, second] =>
      match kind? within tag with
      | some "qualified" =>
          first.string?.bind fun package => second.string?.map (qualified package)
      | some "array_or_slice" =>
          (optionalString? (some first)).bind fun length => (read? true second).map (array length)
      | _ => none
  | _ => none

def readField? (name : String) : List (String × Value) → Option TypeExpr
  | [] => none
  | (key, value) :: rest => if key = name then read? true value else readField? name rest

end

def ofJson? (value : Value) : Option TypeExpr := read? false value

end TypeExpr

namespace Param

def toJson (param : Param) : Value :=
  .object [("name", .string param.name), ("type", param.type.toJson)]

def ofJson? (value : Value) : Option Param :=
  (stringField? 2 0 "name" value).bind fun name =>
    ((field? 2 1 "type" value).bind TypeExpr.ofJson?).map fun type => ⟨name, type⟩

end Param

namespace Method

def toJson (method : Method) : Value :=
  .object
    [("name", .string method.name), ("args", .array (method.args.map Param.toJson)),
     ("returns", .array (method.returns.map Param.toJson))]

def ofJson? (value : Value) : Option Method :=
  (stringField? 3 0 "name" value).bind fun name =>
    (listField? 3 1 "args" Param.ofJson? value).bind fun args =>
      (listField? 3 2 "returns" Param.ofJson? value).map fun returns => ⟨name, args, returns⟩

end Method

namespace Interface

def toJson (interface : Interface) : Value :=
  .object
    [("name", .string interface.name), ("methods", .array (interface.methods.map Method.toJson))]

def ofJson? (value : Value) : Option Interface :=
  (stringField? 2 0 "name" value).bind fun name =>
    (listField? 2 1 "methods" Method.ofJson? value).map fun methods => ⟨name, methods⟩

end Interface

namespace Package

def toJson (package : Package) : Value :=
  .object
    [("name", .string package.name),
     ("imports", .object (package.imports.entries.map fun entry => (entry.1, .string entry.2))),
     ("interfaces", .array (package.interfaces.map Interface.toJson))]

/-- The package that a value describes; its imports are put in order. -/
def ofJson? (value : Value) : Option Package :=
  (stringField? 3 0 "name" value).bind fun name =>
    ((field? 3 1 "imports" value).bind strings?).bind fun imports =>
      (listField? 3 2 "interfaces" Interface.ofJson? value).map fun interfaces =>
        ⟨name, Imports.empty.extend imports, interfaces⟩

def dump (package : Package) : String := package.toJson.pretty

end Package

end InterfaceMocks
