/-!
# Rounding a quotient to the nearest integer

`roundHalfAway n d` is the integer nearest to the fraction `n / d`, with either sign of both parts;
a fraction halfway between two integers goes to the one farther from zero. `roundByRemainder` finds
it for a positive divisor from the truncated quotient and its remainder, without forming a number
larger than the dividend.
-/

namespace SubtitleExchange

def roundHalfAway (n d : Int) : Int :=
  n.sign * d.sign * ((2 * n.natAbs + d.natAbs) / (2 * d.natAbs) : Nat)

def roundByRemainder (n d : Int) : Int :=
  let half := d / 2
  if 0 ≤ n then
    n.tdiv d + (if d - half ≤ n.tmod d then 1 else 0)
  else
    n.tdiv d - (if d - half ≤ -n.tmod d then 1 else 0)

/-- The 64-bit number nearest to an integer. -/
def saturate (z : Int) : Int64 :=
  Int64.ofInt (max Int64.minValue.toInt (min Int64.maxValue.toInt z))

theorem toInt_saturate (z : Int) :
    (saturate z).toInt = max Int64.minValue.toInt (min Int64.maxValue.toInt z) := by
  have hmin : Int64.minValue.toInt = -2 ^ 63 := by decide
  have hmax : Int64.maxValue.toInt = 2 ^ 63 - 1 := by decide
  apply Int64.toInt_ofInt_of_le
  · omega
  · omega

theorem saturate_toInt (v : Int64) : saturate v.toInt = v := by
  apply Int64.toInt_inj.mp
  rw [toInt_saturate]
  have hle := v.toInt_le
  have hge := v.le_toInt
  have hmin : Int64.minValue.toInt = -2 ^ 63 := by decide
  have hmax : Int64.maxValue.toInt = 2 ^ 63 - 1 := by decide
  omega

end SubtitleExchange
