/-!
Sets of characters given as closed ranges of code points.
-/

namespace InterfaceMocks.Text.Ranges

def holds (c : Char) (ranges : List (Nat × Nat)) : Bool :=
  ranges.any fun range => range.1 ≤ c.toNat && c.toNat ≤ range.2

end InterfaceMocks.Text.Ranges
