/-!
What can go wrong with a file, and how it is reported.
-/

namespace InterfaceMocks

inductive OsError where
  | notFound
  | execFormat
  | permissionDenied
  | exists
  | notADirectory
  | isADirectory
  | nameTooLong
  | tooManyLinks
  deriving DecidableEq, Repr

namespace OsError

def message : OsError → String
  | notFound => "No such file or directory (os error 2)"
  | execFormat => "Exec format error (os error 8)"
  | permissionDenied => "Permission denied (os error 13)"
  | .exists => "File exists (os error 17)"
  | notADirectory => "Not a directory (os error 20)"
  | isADirectory => "Is a directory (os error 21)"
  | nameTooLong => "File name too long (os error 36)"
  | tooManyLinks => "Too many levels of symbolic links (os error 40)"

end OsError

end InterfaceMocks
