/-!
# Sets of characters

A set of characters is an ascending list of closed ranges of code points.
-/

namespace PartialUpdate

structure CharSet where
  ranges : List (Nat × Nat)

namespace CharSet

/-- The ranges ascend, so the search ends at the first one that begins above `n`. -/
def covers : List (Nat × Nat) -> Nat -> Bool
  | [], _ => false
  | (first, last) :: rest, n =>
      if n < first then false else if n <= last then true else covers rest n

def contains (set : CharSet) (c : Char) : Bool :=
  covers set.ranges c.toNat

end CharSet
end PartialUpdate
