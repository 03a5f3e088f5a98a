/-!
# Powers of two and ten

The bounds of machine words and the weights of decimal places.
-/

namespace Hypermedia.Decimal

/-- Two to a power: one more than the largest number of so many bits. -/
def twoTo (k : Nat) : Nat := Nat.pow 2 k

/-- Ten to a power: one more than the largest number of so many digits. -/
def tenTo (k : Nat) : Nat := Nat.pow 10 k

theorem tenTo_succ (k : Nat) : tenTo (k + 1) = 10 * tenTo k := Nat.mul_comm ..

theorem tenTo_pos (k : Nat) : 0 < tenTo k := by
  induction k with
  | zero => decide
  | succ k ih => rw [tenTo_succ]; omega

end Hypermedia.Decimal
