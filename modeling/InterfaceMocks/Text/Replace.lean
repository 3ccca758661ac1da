/-!
Search and replacement of a fixed text. Occurrences are taken from the left and do not overlap.
-/

namespace InterfaceMocks.Text

namespace Replace

def occurs (pattern : List Char) : List Char → Bool
  | [] => pattern.isEmpty
  | c :: rest => pattern.isPrefixOf (c :: rest) || occurs pattern rest

/-- Reads on after `skip` characters that belong to an occurrence already replaced. -/
def replaceFrom (pattern replacement : List Char) : Nat → List Char → List Char
  | _, [] => []
  | skip + 1, _ :: rest => replaceFrom pattern replacement skip rest
  | 0, c :: rest =>
      if pattern.isPrefixOf (c :: rest) then
        replacement ++ replaceFrom pattern replacement (pattern.length - 1) rest
      else c :: replaceFrom pattern replacement 0 rest

end Replace

def contains (s pattern : String) : Bool :=
  Replace.occurs pattern.toList s.toList

/-- The text `s` with each occurrence of the non-empty `pattern` replaced. -/
def replaceAll (s pattern replacement : String) : String :=
  String.ofList (Replace.replaceFrom pattern.toList replacement.toList 0 s.toList)

end InterfaceMocks.Text
