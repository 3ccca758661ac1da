import InterfaceMocks.Error
import InterfaceMocks.Extraction.Remarks
import InterfaceMocks.Text.Blank

/-!
Reading one source file into its contents. A file without a package clause is refused, with the place
of what stands first in it.
-/

namespace InterfaceMocks.Extraction

open InterfaceMocks.Syntax
open InterfaceMocks.Grammar (Source)

def missingPackage (file : String) (source : Source) : Error :=
  match source.placed.find? fun placed => !placed.item.isComment with
  | some placed =>
      .missingPackage file placed.start (Text.trim (Text.firstLine placed.item.text))
  | none => .missingPackage file .start "EOF"

def parseFile (file text : String) : Except Error FileContents :=
  match Source.parse? text with
  | none => .error (.malformed file)
  | some source =>
      let contents := contents source
      if contents.package = "" then .error (missingPackage file source) else .ok contents

def parseRemarks (text : String) : List Log.Entry :=
  match Source.parse? text with
  | none => []
  | some source => remarks source

end InterfaceMocks.Extraction
