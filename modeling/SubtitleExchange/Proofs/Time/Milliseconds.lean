import SubtitleExchange.Proofs.Time.Rescale

/-!
# From milliseconds and back

A conversion from milliseconds multiplies two numbers of 64 bits only, so its product is always held
and its result is always the nearest one. If a tick is no longer than a millisecond, then the nearest
count of ticks leads back to the milliseconds it was found for.
-/

namespace SubtitleExchange

namespace IsNearest

theorem of_lt {q : ℚ} {z : ℤ} (h : |q - z| < 1 / 2) : IsNearest q z where
  near := h.le
  away heq := absurd heq h.ne

/-- The error of one half at most becomes smaller if the ratio does not have the size of one. If it
has, then the quotient is an integer and there was no error. -/
theorem mul_ratio {q ratio : ℚ} {v z : ℤ} (hz : IsNearest q z) (hv : q * ratio = v)
    (hratio : |ratio| ≤ 1) : IsNearest (z * ratio) v := by
  rcases hratio.lt_or_eq with hless | hone
  · have herror : (z : ℚ) * ratio - v = (z - q) * ratio := by rw [← hv, sub_mul]
    have hhalf := mul_le_mul_of_nonneg_right hz.near (abs_nonneg ratio)
    apply of_lt
    rw [herror, abs_mul, abs_sub_comm]
    linarith
  · rcases eq_or_eq_neg_of_abs_eq hone with rfl | rfl
    · rw [mul_one] at hv
      rw [hv] at hz
      rw [hz.unique (intCast v), mul_one]
      exact intCast v
    · have hopposite : q = ((-v : ℤ) : ℚ) := by
        rw [Int.cast_neg]
        linarith
      rw [hopposite] at hz
      rw [hz.unique (intCast (-v)), Int.cast_neg, neg_mul_neg, mul_one]
      exact intCast v

end IsNearest

namespace TimeBase

/-!
# Products of two numbers
-/

theorem natAbs_toInt_le (v : Int64) : v.toInt.natAbs ≤ 2 ^ 63 := by
  have hle := v.toInt_le
  have hge := v.le_toInt
  have hmax : Int64.maxValue.toInt = 2 ^ 63 - 1 := by decide
  have hmin : Int64.minValue.toInt = -2 ^ 63 := by decide
  omega

section

variable {source target base : TimeBase}

theorem cast_num_ne_zero (h : base.isValid = true) : (base.num.toInt : ℚ) ≠ 0 := by
  exact_mod_cast toInt_ne_zero ((isValid_iff base).mp h).1

theorem cast_den_ne_zero (h : base.isValid = true) : (base.den.toInt : ℚ) ≠ 0 := by
  exact_mod_cast toInt_ne_zero ((isValid_iff base).mp h).2

theorem fits_of_natAbs_le {value : Int64}
    (h : (product source value target).natAbs ≤ 2 ^ 63 * 2 ^ 63) : Fits source value target := by
  have hleast : Word.least 128 = -2 ^ 127 := by decide
  have hgreatest : Word.greatest 128 = 2 ^ 127 - 1 := by decide
  refine ⟨?_, ?_, ?_⟩
  · omega
  · omega
  · intro _
    omega

theorem fits_milliseconds (value : Int64) (target : TimeBase) : Fits milliseconds value target := by
  apply fits_of_natAbs_le
  have hone : milliseconds.num.toInt = 1 := by decide
  rw [product, hone, Int.mul_one, Int.natAbs_mul]
  exact Nat.mul_le_mul (natAbs_toInt_le value) (natAbs_toInt_le target.den)

theorem quotient_from_milliseconds (value : Int64) (target : TimeBase) :
    quotient milliseconds value target =
      (value.toInt * target.den.toInt : ℚ) / (1000 * target.num.toInt) := by
  have hnum : milliseconds.num.toInt = 1 := by decide
  have hden : milliseconds.den.toInt = 1000 := by decide
  rw [quotient, hnum, hden]
  push_cast
  rw [mul_one]

theorem quotient_to_milliseconds (source : TimeBase) (value : Int64) :
    quotient source value milliseconds =
      value.toInt * ((1000 * source.num.toInt : ℚ) / source.den.toInt) := by
  have hnum : milliseconds.num.toInt = 1 := by decide
  have hden : milliseconds.den.toInt = 1000 := by decide
  rw [quotient, hnum, hden]
  push_cast
  ring

theorem rescale_of_isNearest (hsource : source.isValid = true) (htarget : target.isValid = true)
    {value : Int64} (hfits : Fits source value target) {z : ℤ}
    (hz : IsNearest (quotient source value target) z) :
    source.rescale value target = saturate z := by
  rw [rescale_of_fits hsource htarget hfits,
    (isNearest_exactCount hsource htarget value).unique hz]

theorem isValid_milliseconds : milliseconds.isValid = true := by decide

theorem rescale_from_milliseconds (h : base.isValid = true) {value : Int64} {z : ℤ}
    (hz : IsNearest ((value.toInt * base.den.toInt : ℚ) / (1000 * base.num.toInt)) z) :
    milliseconds.rescale value base = saturate z := by
  rw [← quotient_from_milliseconds] at hz
  exact rescale_of_isNearest isValid_milliseconds h (fits_milliseconds value base) hz

theorem rescale_milliseconds_self (value : Int64) :
    milliseconds.rescale value milliseconds = value := by
  have hexact : IsNearest (quotient milliseconds value milliseconds) value.toInt := by
    rw [quotient_self isValid_milliseconds]
    exact IsNearest.intCast value.toInt
  rw [rescale_of_isNearest isValid_milliseconds isValid_milliseconds
    (fits_milliseconds value milliseconds) hexact, saturate_toInt]

/-!
# Ticks of a millisecond or less
-/

/-- The two products of the way back are held because the tick is no longer than a millisecond. -/
theorem fits_to_milliseconds (hfine : 1000 * base.num.toInt.natAbs ≤ base.den.toInt.natAbs)
    (value : Int64) : Fits base value milliseconds := by
  apply fits_of_natAbs_le
  have hden : milliseconds.den.toInt = 1000 := by decide
  have hfactor : base.num.toInt.natAbs * 1000 ≤ 2 ^ 63 := by
    have hbound := natAbs_toInt_le base.den
    omega
  rw [product, hden, Int.mul_assoc, Int.natAbs_mul, Int.natAbs_mul]
  exact Nat.mul_le_mul (natAbs_toInt_le value) hfactor

theorem abs_ratio_le_one (h : base.isValid = true)
    (hfine : 1000 * base.num.toInt.natAbs ≤ base.den.toInt.natAbs) :
    |(1000 * base.num.toInt : ℚ) / base.den.toInt| ≤ 1 := by
  have hsizes : (1000 : ℚ) * |(base.num.toInt : ℚ)| ≤ |(base.den.toInt : ℚ)| := by
    rw [← Int.cast_abs, ← Int.cast_abs, ← Nat.cast_natAbs, ← Nat.cast_natAbs]
    exact_mod_cast hfine
  rw [abs_div, abs_mul, abs_of_pos (by norm_num : (0 : ℚ) < 1000),
    div_le_one (abs_pos.mpr (cast_den_ne_zero h))]
  exact hsizes

/-- Milliseconds are found again from the nearest count of ticks that are no longer than they are,
if that count is a number of 64 bits. -/
theorem rescale_rescale_milliseconds (h : base.isValid = true)
    (hfine : 1000 * base.num.toInt.natAbs ≤ base.den.toInt.natAbs) {value : Int64} {z : ℤ}
    (hz : IsNearest ((value.toInt * base.den.toInt : ℚ) / (1000 * base.num.toInt)) z)
    (hmin : -2 ^ 63 ≤ z) (hmax : z < 2 ^ 63) :
    (milliseconds.rescale value base).toInt = z ∧
      base.rescale (milliseconds.rescale value base) milliseconds = value := by
  have hcount : (milliseconds.rescale value base).toInt = z := by
    have hleast : Int64.minValue.toInt = -2 ^ 63 := by decide
    have hgreatest : Int64.maxValue.toInt = 2 ^ 63 - 1 := by decide
    rw [rescale_from_milliseconds h hz, toInt_saturate]
    omega
  refine ⟨hcount, ?_⟩
  have hback : IsNearest (quotient base (milliseconds.rescale value base) milliseconds)
      value.toInt := by
    rw [quotient_to_milliseconds, hcount]
    apply hz.mul_ratio _ (abs_ratio_le_one h hfine)
    have hnum := cast_num_ne_zero h
    have hden := cast_den_ne_zero h
    field_simp
  rw [rescale_of_isNearest h isValid_milliseconds (fits_to_milliseconds hfine _) hback,
    saturate_toInt]

end

/-- One millisecond is one and a half of these ticks, which count backwards. -/
def backwardTick : TimeBase := ⟨-1, 1500⟩

theorem rescale_rescale_backwardTick :
    backwardTick.isValid = true ∧
      1000 * backwardTick.num.toInt.natAbs ≤ backwardTick.den.toInt.natAbs ∧
      IsNearest (((1 : Int64).toInt * backwardTick.den.toInt : ℚ) /
        (1000 * backwardTick.num.toInt)) (-2) ∧
      milliseconds.rescale 1 backwardTick = -2 ∧ backwardTick.rescale (-2) milliseconds = 1 := by
  have hvalid : backwardTick.isValid = true := by decide
  have hfine : 1000 * backwardTick.num.toInt.natAbs ≤ backwardTick.den.toInt.natAbs := by decide
  have hnearest : IsNearest (((1 : Int64).toInt * backwardTick.den.toInt : ℚ) /
      (1000 * backwardTick.num.toInt)) (-2) := by
    have hround : roundHalfAway ((1 : Int64).toInt * backwardTick.den.toInt)
        (1000 * backwardTick.num.toInt) = -2 := by decide
    have hdivisor : 1000 * backwardTick.num.toInt ≠ 0 := by decide
    rw [← hround]
    exact_mod_cast isNearest_roundHalfAway _ hdivisor
  obtain ⟨hcount, hback⟩ :=
    rescale_rescale_milliseconds hvalid hfine hnearest (by decide) (by decide)
  have hticks : milliseconds.rescale 1 backwardTick = -2 := Int64.toInt_inj.mp hcount
  rw [hticks] at hback
  exact ⟨hvalid, hfine, hnearest, hticks, hback⟩

end TimeBase
end SubtitleExchange
