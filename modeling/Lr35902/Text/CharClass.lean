/-!
# Classes of characters

A class of characters by its bounds: the code points at which it begins and ends, by turns and in
ascending order.
-/

namespace Lr35902.Text

/-- Whether a character is in the class: an odd number of bounds lies at or below it. -/
def isWithin (bounds : List Nat) (c : Char) : Bool :=
  (bounds.takeWhile (· ≤ c.toNat)).length % 2 == 1

end Lr35902.Text
