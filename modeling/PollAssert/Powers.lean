/-!
# Powers of two and of ten

Binary formats count in powers of two and decimal texts in powers of ten. Both are named here once.
-/

namespace PollAssert

/-- Two to the power of `k`. -/
def twoTo (k : Nat) : Nat := Nat.pow 2 k

/-- Ten to the power of `k`. -/
def tenTo (k : Nat) : Nat := Nat.pow 10 k

end PollAssert
