import MakePlan.Decimal.Binary64

/-!
# Shortest decimal text

The text of a double: the fewest digits that read back as the same number, and of those the nearest
to it, written out without an exponent.
-/

namespace MakePlan.Decimal

set_option autoImplicit false

/-- The decimals that round to `significand * 2 ^ exponent`, in quarters of `2 ^ exponent`: the
value, the two ends, and whether the ends belong to it. -/
structure Rounding where
  value : Nat
  low : Nat
  high : Nat
  closed : Bool

/-- The step below is half as wide when the significand is the least of a normal number. -/
def Rounding.around (significand : Nat) (exponent : Int) : Rounding where
  value := 4 * significand
  low :=
    if significand = leastNormal ∧ -1074 < exponent then 4 * significand - 1
    else 4 * significand - 2
  high := 4 * significand + 2
  closed := significand % 2 = 0

/-- Looks for a multiple of `10 ^ power` that rounds to the number, from coarse grids to finer ones.
On one grid only the neighbours of the number can do so; the nearer is taken, and of two equally
near the larger. -/
def searchGrid (rounding : Rounding) (exponent : Int) : Nat → Int → Nat × Int
  | 0, power => (0, power)
  | fuel + 1, power =>
      let (twoUp, twoDown) := powerFraction 2 (exponent - 2)
      let (tenUp, tenDown) := powerFraction 10 power
      let unit := tenUp * twoDown
      let scale := twoUp * tenDown
      let value := rounding.value * scale
      let rounds (count : Nat) : Bool :=
        if rounding.closed then
          rounding.low * scale ≤ count * unit && count * unit ≤ rounding.high * scale
        else rounding.low * scale < count * unit && count * unit < rounding.high * scale
      let below := value / unit
      let above := below + 1
      if rounds below && rounds above then
        if 2 * value < (below + above) * unit then (below, power) else (above, power)
      else if rounds below then (below, power)
      else if rounds above then (above, power)
      else searchGrid rounding exponent fuel (power - 1)

/-- Digits and power of ten of the shortest decimal that rounds to a positive double. Grids from
`10 ^ 309` down to `10 ^ (-340)` suffice for every double. -/
def shortest (significand : Nat) (exponent : Int) : Nat × Int :=
  searchGrid (Rounding.around significand exponent) exponent 650 309

def positional (digits : Nat) (power : Int) : String :=
  let figures := Nat.toDigits 10 digits
  if 0 ≤ power then String.ofList (figures ++ List.replicate power.toNat '0')
  else
    let places := (-power).toNat
    let padded := List.replicate (places + 1 - figures.length) '0' ++ figures
    String.ofList
      (padded.take (padded.length - places) ++ '.' :: padded.drop (padded.length - places))

def Binary64.text : Binary64 → String
  | .nan => "NaN"
  | .infinite negative => if negative then "-inf" else "inf"
  | .finite negative significand exponent =>
      let sign := if negative then "-" else ""
      let (digits, power) := if significand = 0 then (0, 0) else shortest significand exponent
      sign ++ positional digits power ++ if 0 ≤ power then ".0" else ""

end MakePlan.Decimal
