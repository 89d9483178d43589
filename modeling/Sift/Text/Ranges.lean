/-!
# Sift.Text.Ranges

Sets of characters by the places where membership changes: the first number starts
the first range, the second is the first place after it, and so on.
-/

namespace Sift.Text

/-- Whether a place lies in one of the ranges: an odd number of bounds stands at or
before it. -/
def inRanges (bounds : List Nat) (place : Nat) : Bool :=
  (bounds.takeWhile (· ≤ place)).length % 2 = 1

/-- Whether a character lies in one of the ranges. -/
def inTable (bounds : List Nat) (c : Char) : Bool := inRanges bounds c.toNat

end Sift.Text
