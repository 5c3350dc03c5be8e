/-!
# Classes of characters

A class of characters is a list of inclusive ranges of scalar values.
-/

namespace RowStore.Text

/-- Whether a scalar value lies in one of the ranges. -/
def inRanges (ranges : List (Nat × Nat)) (value : Nat) : Bool :=
  ranges.any fun (low, high) => low ≤ value && value ≤ high

end RowStore.Text
