/-!
Messages of a run, in the order in which they arise.
-/

namespace InterfaceMocks.Log

inductive Level where
  | debug
  | info
  | warn
  deriving DecidableEq, Repr

def Level.label : Level → String
  | debug => "debug"
  | info => "info"
  | warn => "warn"

structure Entry where
  level : Level
  message : String
  deriving DecidableEq, Repr

def debug (message : String) : Entry := ⟨.debug, message⟩

def info (message : String) : Entry := ⟨.info, message⟩

def warn (message : String) : Entry := ⟨.warn, message⟩

/-- The entries that are shown, with or without those meant for debugging. -/
def shown (verbose : Bool) (entries : List Entry) : List Entry :=
  entries.filter fun entry => verbose || entry.level ≠ .debug

end InterfaceMocks.Log
