/-!
# Double precision numbers

A finite double is an integer times a power of two. `ofDecimal` rounds a decimal literal to the
nearest one in exact arithmetic, a tie going to the even neighbour.
-/

namespace MakePlan.Decimal

set_option autoImplicit false

/-- A double, with zero and the subnormal numbers among the finite ones: there the significand is
below `2 ^ 53` and the exponent at least `-1074`. -/
inductive Binary64
  | nan
  | infinite (negative : Bool)
  | finite (negative : Bool) (significand : Nat) (exponent : Int)
  deriving DecidableEq, Repr

/-- The integer nearest to a quotient; of two, the even one. -/
def roundQuotient (numerator denominator : Nat) : Nat :=
  let floor := numerator / denominator
  let twice := 2 * (numerator % denominator)
  if twice < denominator then floor
  else if denominator < twice then floor + 1
  else floor + floor % 2

def powerFraction (base : Nat) (exponent : Int) : Nat × Nat :=
  if 0 ≤ exponent then (base.pow exponent.toNat, 1) else (1, base.pow (-exponent).toNat)

def floorLog2 (numerator denominator : Nat) : Int :=
  let estimate : Int := numerator.log2 - denominator.log2
  let (up, down) := powerFraction 2 estimate
  if numerator * down < denominator * up then estimate - 1 else estimate

def leastNormal : Nat := Nat.pow 2 52

namespace Binary64

/-- The double nearest to a positive quotient, infinite from the middle of the last step on. -/
def ofQuotient (negative : Bool) (numerator denominator : Nat) : Binary64 :=
  let exponent := max (floorLog2 numerator denominator - 52) (-1074)
  let (up, down) := powerFraction 2 exponent
  let significand := roundQuotient (numerator * down) (denominator * up)
  let (significand, exponent) :=
    if significand = 2 * leastNormal then (leastNormal, exponent + 1) else (significand, exponent)
  if 971 < exponent then .infinite negative else .finite negative significand exponent

/-- The double nearest to `digits * 10 ^ exponent`. Magnitudes far outside the range are settled
before any power is computed. -/
def ofDecimal (negative : Bool) (digits : Nat) (exponent : Int) : Binary64 :=
  let magnitude : Int := (Nat.toDigits 10 digits).length + exponent
  if digits = 0 ∨ magnitude < -330 then .finite negative 0 (-1074)
  else if 330 < magnitude then .infinite negative
  else
    let (up, down) := powerFraction 10 exponent
    ofQuotient negative (digits * up) down

end Binary64

end MakePlan.Decimal
