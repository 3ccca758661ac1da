import InterfaceMocks.Files.OsError
import InterfaceMocks.Syntax.Position
import InterfaceMocks.Text.Utf8

/-!
Why a run fails. The wording of each cause is here and nowhere else. Where a text cannot be read, the
message also says in which place, and what stands there; both are for the reader of the text to find,
and the message takes them from outside.
-/

namespace InterfaceMocks

open InterfaceMocks.Syntax

/-- A place that is wrong in a file, with what is shown of it. -/
structure Place where
  file : String
  position : Position
  snippet : String

def Place.message (place : Place) : String :=
  "Syntax error in " ++ place.file ++ ":" ++ toString (place.position.row + 1) ++ ":"
    ++ toString (place.position.column + 1) ++ " near `" ++ place.snippet ++ "`"

theorem Place.snippet_eq {file : String} {position : Position} {snippet other : String}
    (same : Place.message ⟨file, position, snippet⟩ = Place.message ⟨file, position, other⟩) :
    snippet = other :=
  (String.append_right_inj _).1 ((String.append_left_inj _).1 same)

inductive PruneError where
  | notText (file : String) (flaw : Text.Utf8.Flaw)
  | malformed
  | notRun (program : String) (error : OsError)
  | failed (program : String) (status : Nat) (report : String)
  deriving DecidableEq

def PruneError.message (place : Place) : PruneError → String
  | notText file flaw => file ++ " is not UTF-8: " ++ flaw.message
  | malformed => place.message
  | notRun program error => "failed to run " ++ program ++ ": " ++ error.message
  | failed program status report =>
      program ++ " exited with exit status: " ++ toString status ++ ": " ++ report

inductive Error where
  -- a file that is not text
  | notText
  | unreadableDirectory (path : String) (error : OsError)
  | noSources (path : String)
  -- a file that cannot be read as source
  | malformed (file : String)
  -- a file without a package clause, with the place and text of what stands first in it
  | missingPackage (file : String) (position : Position) (found : String)
  -- a generated source that cannot be read
  | unformattable
  | pruning (cause : PruneError)
  deriving DecidableEq

namespace Error

/-- The message of an error, given the place that is wrong in a text that cannot be read. -/
def message (place : Place) : Error → String
  | notText => "IO error: stream did not contain valid UTF-8"
  | unreadableDirectory path error => "Cannot read directory " ++ path ++ ": " ++ error.message
  | noSources path => "No Go source files found in " ++ path
  | malformed file => Place.message { place with file }
  | missingPackage file position found =>
      Place.message ⟨file, position, "expected 'package', found " ++ found⟩
  | unformattable =>
      "Generated source could not be formatted: "
        ++ Place.message { place with file := "generated source" }
  | pruning cause => "Import pruning failed: " ++ cause.message place

def isSyntactic : Error → Bool
  | malformed _ | unformattable | pruning .malformed => true
  | _ => false

/-- The message of an error, where it needs no place. -/
def message? (error : Error) : Option String :=
  if error.isSyntactic then none else some (error.message ⟨"", .start, ""⟩)

theorem message_place {error : Error} (read : error.isSyntactic = false) (place other : Place) :
    error.message place = error.message other := by
  cases error with
  | malformed | unformattable => cases read
  | pruning cause =>
      cases cause with
      | malformed => cases read
      | notText | notRun | failed => rfl
  | notText | unreadableDirectory | noSources | missingPackage => rfl

theorem message_snippet {error : Error} (unread : error.isSyntactic = true) {place : Place}
    {snippet : String} (same : error.message place = error.message { place with snippet }) :
    place.snippet = snippet := by
  cases error with
  | malformed file => exact Place.snippet_eq same
  | unformattable =>
      exact Place.snippet_eq ((String.append_right_inj _).1 same)
  | pruning cause =>
      cases cause with
      | malformed => exact Place.snippet_eq ((String.append_right_inj _).1 same)
      | notText | notRun | failed => cases unread
  | notText | unreadableDirectory | noSources | missingPackage => cases unread

/-- An error has a message of its own exactly if it says the same of all places. -/
theorem message?_eq_some {error : Error} {text : String} :
    error.message? = some text ↔ ∀ place, error.message place = text := by
  unfold message?
  constructor
  · intro own place
    split at own
    · cases own
    · rename_i read
      rw [← Option.some.inj own]
      exact message_place (by simpa using read) _ _
  · intro every
    split
    · rename_i unread
      have same := (every ⟨"", .start, "x"⟩).trans (every ⟨"", .start, ""⟩).symm
      exact absurd (message_snippet unread same) (by decide)
    · rw [every]

end Error

end InterfaceMocks
