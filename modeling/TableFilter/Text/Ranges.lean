/-!
# Classes of characters

A class of characters is given by ranges of code points.
-/

namespace TableFilter.Text

/-- Membership in a class given by pairs of a first and a last code point. -/
def inRanges (ranges : List (Nat × Nat)) (n : Nat) : Bool :=
  ranges.any fun (first, last) => first ≤ n && n ≤ last

end TableFilter.Text
