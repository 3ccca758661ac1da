import InterfaceMocks.Files.OsError
import InterfaceMocks.Files.Path

/-!
A file system as a value. Each entry has the list of names that leads to it from the root, and is a
file with its mode, a directory, or a symbolic link. `resolve` follows a path to such a list of names,
from the root or from the working directory and through links, and the operations act on what it finds
there.
-/

namespace InterfaceMocks

inductive Node where
  | file (mode : Nat) (contents : ByteArray)
  | directory
  | link (target : String)

/-- The names that lead from the root to an entry. -/
abbrev Location := List String

structure Store where
  entries : List (Location × Node)
  -- where relative paths start
  working : Location := []

namespace Store

def empty : Store := { entries := [] }

/-- What is at a location. The root itself has no entry. -/
def node? (store : Store) (location : Location) : Option Node :=
  if location = [] then some .directory else store.entries.lookup location

/-- Replaces the node of an entry, or adds the entry at the end. -/
def put (location : Location) (node : Node) : List (Location × Node) → List (Location × Node)
  | [] => [(location, node)]
  | entry :: rest =>
      if entry.1 = location then (location, node) :: rest else entry :: put location node rest

def set (store : Store) (location : Location) (node : Node) : Store :=
  { store with entries := put location node store.entries }

/-- What a path leads to: a location, and whether a slash after it asks for a directory. -/
structure Target where
  location : Location
  asDirectory : Bool

/-- The directory from which a path is followed that is given in the directory `base`. -/
def start (base : Location) (path : String) : Location :=
  if Path.isAbsolute path then [] else base

/-- Follows `names` from the directory `base`. The last name need not exist, but what comes before
it must. At most `links` symbolic links are followed. The root is its own parent. -/
def walk (store : Store) (links : Nat) (base : Location) : List String → Except OsError Target
  | [] => .ok ⟨base, true⟩
  | name :: rest =>
      if name = "" || name = "." then walk store links base rest
      else if name = ".." then walk store links base.dropLast rest
      else if 255 < name.utf8ByteSize then .error .nameTooLong
      else
        match store.node? (base ++ [name]) with
        | some .directory => walk store links (base ++ [name]) rest
        | some (.file _ _) =>
            if rest.isEmpty then .ok ⟨base ++ [name], false⟩ else .error .notADirectory
        | some (.link target) =>
            match links with
            | 0 => .error .tooManyLinks
            | links + 1 => walk store links (start base target) (Path.split target ++ rest)
        | none =>
            if rest.isEmpty then .ok ⟨base ++ [name], false⟩
            else if rest.all (· = "") then .ok ⟨base ++ [name], true⟩
            else .error .notFound
termination_by names => (links, names.length)

def mostLinks : Nat := 40

def resolve (store : Store) (path : String) : Except OsError Target :=
  if path = "" then .error .notFound
  else store.walk mostLinks (start store.working path) (Path.split path)

def find (store : Store) (path : String) : Except OsError (Location × Node) :=
  match store.resolve path with
  | .error error => .error error
  | .ok target =>
      match store.node? target.location with
      | some node => .ok (target.location, node)
      | none => .error .notFound

def childrenOf (store : Store) (location : Location) : List (String × Node) :=
  store.entries.filterMap fun entry =>
    match entry.1.getLast? with
    | some name => if entry.1.dropLast = location then some (name, entry.2) else none
    | none => none

def list (store : Store) (path : String) : Except OsError (List (String × Node)) :=
  match store.find path with
  | .error error => .error error
  | .ok (location, .directory) => .ok (store.childrenOf location)
  | .ok (_, _) => .error .notADirectory

def write (store : Store) (path : String) (mode : Nat) (contents : ByteArray) :
    Except OsError Store :=
  match store.resolve path with
  | .error error => .error error
  | .ok target =>
      match store.node? target.location with
      | some .directory => .error .isADirectory
      | some (.file _ _) => .ok (store.set target.location (.file mode contents))
      | some (.link _) => .error .tooManyLinks
      | none =>
          if target.asDirectory then .error .isADirectory
          else .ok (store.set target.location (.file mode contents))

def makeDirectories (store : Store) : String → List String → Except OsError Store
  | _, [] => .ok store
  | base, name :: rest =>
      let path := Path.join base name
      match store.resolve path with
      | .error error => .error error
      | .ok target =>
          match store.node? target.location with
          | some .directory => makeDirectories store path rest
          | some _ => .error (if rest.isEmpty then .exists else .notADirectory)
          | none => makeDirectories (store.set target.location .directory) path rest

def makeDirectory (store : Store) (path : String) : Except OsError Store :=
  store.makeDirectories (Path.origin path) (Path.names path)

def writeDeep (store : Store) (path : String) (mode : Nat) (contents : ByteArray) :
    Except OsError Store :=
  match store.makeDirectories (Path.origin path) (Path.names path).dropLast with
  | .error error => .error error
  | .ok store => store.write path mode contents

/-- The location of the entry itself, even if it is a link. -/
def locate (store : Store) (path : String) : Except OsError Location :=
  match (Path.names path).getLast? with
  | none => .error .notFound
  | some name =>
      match (Path.names path).dropLast with
      | [] => .ok (start store.working path ++ [name])
      | above =>
          match store.find (Path.origin path ++ "/".intercalate above) with
          | .error error => .error error
          | .ok (location, .directory) => .ok (location ++ [name])
          | .ok (_, _) => .error .notADirectory

def makeLink (store : Store) (path target : String) : Except OsError Store :=
  match store.locate path with
  | .error error => .error error
  | .ok location =>
      match store.node? location with
      | some _ => .error .exists
      | none => .ok (store.set location (.link target))

def remove (store : Store) (path : String) : Except OsError Store :=
  match store.locate path with
  | .error error => .error error
  | .ok location =>
      match store.node? location with
      | none => .error .notFound
      | some _ =>
          .ok { store with entries := store.entries.filter fun entry => !location.isPrefixOf entry.1 }

end Store

end InterfaceMocks
