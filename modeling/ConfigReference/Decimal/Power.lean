/-!
# Powers

Powers of two and ten, and the integers that fit in a word of 64 bits with a sign.
-/

set_option autoImplicit false

namespace ConfigReference.Decimal

def twoPow (n : Nat) : Nat := Nat.pow 2 n

def tenPow (n : Nat) : Nat := Nat.pow 10 n

def fitsWord (n : Int) : Bool := -(twoPow 63 : Int) ≤ n && n < twoPow 63

/-- Minus `n` in 64 bits. The least integer has no opposite and wraps around to itself, as in a build
that does not check for overflow; one that does would panic there. -/
def negateWord (n : Int) : Int := if n = -(twoPow 63 : Int) then n else -n

end ConfigReference.Decimal
