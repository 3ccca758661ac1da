/-!
Paths as text. `join` puts a relative path below a directory; an absolute path stands for itself.
`names` are the parts of a path that say something, and `origin` is where they start from.
-/

namespace InterfaceMocks.Path

def isAbsolute (path : String) : Bool :=
  match path.toList with
  | c :: _ => c == '/'
  | [] => false

def endsWithSlash (path : String) : Bool := path.toList.getLast? == some '/'

/-- A separator is added where there is something to separate from and none stands there yet. -/
def join (directory name : String) : String :=
  if isAbsolute name then name
  else if directory = "" || endsWithSlash directory then directory ++ name
  else directory ++ "/" ++ name

/-- The parts between slashes, also empty ones; there is always at least one. -/
def components : List Char → List (List Char)
  | [] => [[]]
  | c :: rest =>
      if c = '/' then [] :: components rest
      else
        match components rest with
        | [] => [[c]]
        | first :: more => (c :: first) :: more

def split (path : String) : List String := (components path.toList).map String.ofList

def names (path : String) : List String := (split path).filter (· ≠ "")

def origin (path : String) : String := if isAbsolute path then "/" else ""

end InterfaceMocks.Path
