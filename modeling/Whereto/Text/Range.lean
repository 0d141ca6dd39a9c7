/-!
Sets of characters, as closed ranges of code points.
-/

namespace Whereto.Text

/-- Whether a code point lies in one of the closed ranges. -/
def inRanges (ranges : List (Nat × Nat)) (n : Nat) : Bool :=
  ranges.any fun r => r.1 ≤ n && n ≤ r.2

def isAscii (c : Char) : Bool := c.toNat < 0x80

end Whereto.Text
