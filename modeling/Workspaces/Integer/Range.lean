-- The ranges of the fixed-width integer types.

namespace Workspaces

/-- The values that an integer type holds: all from the least to the greatest. -/
structure IntegerRange where
  least : Int
  greatest : Nat
  deriving DecidableEq, Repr

namespace IntegerRange

/-- The integers of so many bits without a sign. -/
def unsigned (bits : Nat) : IntegerRange := ⟨0, (1 <<< bits) - 1⟩

/-- The integers of so many bits, one of which is the sign. -/
def signed (bits : Nat) : IntegerRange :=
  ⟨-((1 <<< (bits - 1) : Nat) : Int), (1 <<< (bits - 1)) - 1⟩

def contains (range : IntegerRange) (n : Int) : Bool := range.least ≤ n && n ≤ range.greatest

end IntegerRange

end Workspaces
