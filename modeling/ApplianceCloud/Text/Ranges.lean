/-!
# Classes of characters as ranges of code points

A property of the Unicode tables is kept as closed ranges, ascending and apart. The tables of this
library hold version 14 of the standard.
-/

namespace ApplianceCloud.Text

def inRanges (ranges : List (Nat × Nat)) (code : Nat) : Bool :=
  ranges.any fun range => range.1 ≤ code ∧ code ≤ range.2

def areAscending : List (Nat × Nat) → Bool
  | [] => true
  | [range] => range.1 ≤ range.2
  | range :: next :: rest => range.1 ≤ range.2 ∧ range.2 + 1 < next.1 ∧ areAscending (next :: rest)

def countOf (ranges : List (Nat × Nat)) : Nat :=
  ranges.foldl (fun count range => count + (range.2 + 1 - range.1)) 0

end ApplianceCloud.Text
