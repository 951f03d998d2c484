/-!
# Sets of code points by their boundaries

A set of numbers is given by the ascending list of the places where
membership changes: it starts outside, and every boundary turns it over.
-/

namespace DeliveryAudit.Text

/-- How many entries of the ascending array, between the places `lo` and
`hi`, are at most `n`, plus `lo`. -/
def countUpTo (bounds : Array Nat) (n lo hi : Nat) : Nat :=
  if _ : lo < hi then
    let mid := (lo + hi) / 2
    if bounds.getD mid 0 ≤ n then
      countUpTo bounds n (mid + 1) hi
    else
      countUpTo bounds n lo mid
  else
    lo
termination_by hi - lo

/-- Membership of `n` in the set whose boundaries are given. -/
def memBounds (bounds : Array Nat) (n : Nat) : Bool :=
  countUpTo bounds n 0 bounds.size % 2 == 1

end DeliveryAudit.Text
