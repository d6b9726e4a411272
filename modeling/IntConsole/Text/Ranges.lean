/-!
This module contains classes of characters that are given by ranges of code points.
-/

namespace IntConsole

namespace Text

def inRanges (ranges : List (Nat × Nat)) (c : Char) : Bool :=
  ranges.any fun (first, last) => first ≤ c.toNat && c.toNat ≤ last

end Text

end IntConsole
