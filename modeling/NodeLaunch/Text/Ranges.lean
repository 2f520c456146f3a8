/-!
# Ranges of characters

Character properties are given as lists of ranges of code points, in order.
-/

namespace NodeLaunch.Text

def inRanges (ranges : List (Nat × Nat)) (n : Nat) : Bool :=
  ranges.any fun (first, last) => first ≤ n && n ≤ last

end NodeLaunch.Text
