/-!
Sets of characters given by closed intervals of scalar values.
-/

namespace NamingLint.Text

abbrev Intervals := List (Nat × Nat)

def Intervals.contains (intervals : Intervals) (c : Char) : Bool :=
  intervals.any fun (least, greatest) => least ≤ c.toNat && c.toNat ≤ greatest

end NamingLint.Text
