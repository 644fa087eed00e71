/-! # Ranges of numbers

Tables of characters are lists of ranges, each from its first to its last number, in ascending
order.
-/

namespace BootstrapApproval.Ranges

def holds (n : Nat) : List (Nat × Nat) → Bool
  | [] => false
  | (low, high) :: rest => if n < low then false else n ≤ high || holds n rest

def ascend : List (Nat × Nat) → Bool
  | [] => true
  | [(low, high)] => low ≤ high
  | (low, high) :: (next, last) :: rest =>
      low ≤ high && high < next && ascend ((next, last) :: rest)

end BootstrapApproval.Ranges
