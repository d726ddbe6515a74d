import Mathlib.Algebra.Order.Field.Rat
import Mathlib.Tactic.FieldSimp
import Mathlib.Tactic.Linarith
import Mathlib.Tactic.NormNum
import Mathlib.Tactic.Positivity
import Mathlib.Tactic.Ring
import SubtitleExchange.Time.Rounding

/-!
# The integer nearest to a quotient

A rounded quotient is known by its distance from the exact one, however it is computed. Both ways of
rounding find the one integer that is nearest, and of two at the same distance the one farther from
zero.
-/

namespace SubtitleExchange

/-- An integer no farther from a number than one half. If it is as far as that, then it is farther
from zero than the number. -/
structure IsNearest (q : ℚ) (z : ℤ) : Prop where
  near : |q - z| ≤ 1 / 2
  away : |q - z| = 1 / 2 → |q| < |(z : ℚ)|

namespace IsNearest

theorem intCast (z : ℤ) : IsNearest (z : ℚ) z := by
  have hdistance : |(z : ℚ) - z| = 0 := by rw [sub_self, abs_zero]
  constructor
  · rw [hdistance]
    norm_num
  · intro hhalf
    rw [hdistance] at hhalf
    norm_num at hhalf

theorem neg {q : ℚ} {z : ℤ} (h : IsNearest q z) : IsNearest (-q) (-z) := by
  have hdistance : |-q - ((-z : ℤ) : ℚ)| = |q - z| := by
    rw [Int.cast_neg, ← neg_sub', abs_neg]
  constructor
  · rw [hdistance]
    exact h.near
  · intro hhalf
    rw [hdistance] at hhalf
    rw [abs_neg, Int.cast_neg, abs_neg]
    exact h.away hhalf

/-- Two different integers would both be one half away, on the two sides, and then the one nearer to
zero is not nearest. -/
theorem le {q : ℚ} {z w : ℤ} (hz : IsNearest q z) (hw : IsNearest q w) : w ≤ z := by
  by_contra hlt
  have hstep : (z : ℚ) + 1 ≤ w := by
    exact_mod_cast Int.add_one_le_of_lt (not_le.mp hlt)
  have hznear := abs_le.mp hz.near
  have hwnear := abs_le.mp hw.near
  have hqz : q - z = 1 / 2 := by linarith
  have hqw : q - w = -(1 / 2) := by linarith
  have hzaway := hz.away (by rw [hqz, abs_of_pos (by norm_num)])
  have hwaway := hw.away (by rw [hqw, abs_neg, abs_of_pos (by norm_num)])
  rcases le_or_gt 0 z with hpos | hneg
  · have hzpos : (0 : ℚ) ≤ z := by exact_mod_cast hpos
    rw [abs_of_nonneg hzpos, abs_of_nonneg (by linarith)] at hzaway
    linarith
  · have hzneg : (z : ℚ) + 1 ≤ 0 := by exact_mod_cast Int.add_one_le_of_lt hneg
    rw [abs_of_nonpos (by linarith), abs_of_nonpos (by linarith)] at hwaway
    linarith

theorem unique {q : ℚ} {z w : ℤ} (hz : IsNearest q z) (hw : IsNearest q w) : z = w :=
  le_antisymm (hw.le hz) (hz.le hw)

theorem nonneg {q : ℚ} {z : ℤ} (h : IsNearest q z) (hq : 0 ≤ q) : 0 ≤ z := by
  have hnear := abs_le.mp h.near
  have hlt : (-1 : ℚ) < z := by linarith
  have hint : -1 < z := by exact_mod_cast hlt
  omega

theorem nonpos {q : ℚ} {z : ℤ} (h : IsNearest q z) (hq : q ≤ 0) : z ≤ 0 :=
  neg_nonneg.mp (h.neg.nonneg (neg_nonneg.mpr hq))

end IsNearest

/-!
# Rounding in the integers

Both signs can be taken out of the quotient, so it is enough to round a quotient of natural numbers.
-/

theorem roundHalfAway_neg_left (n d : ℤ) : roundHalfAway (-n) d = -roundHalfAway n d := by
  rw [roundHalfAway, roundHalfAway, Int.sign_neg, Int.natAbs_neg, Int.neg_mul, Int.neg_mul]

theorem roundHalfAway_neg_right (n d : ℤ) : roundHalfAway n (-d) = -roundHalfAway n d := by
  rw [roundHalfAway, roundHalfAway, Int.sign_neg, Int.natAbs_neg, Int.mul_neg, Int.neg_mul]

theorem roundHalfAway_natCast (n : ℕ) {d : ℕ} (hd : 0 < d) :
    roundHalfAway n d = ((2 * n + d) / (2 * d) : ℕ) := by
  have hsign : (d : ℤ).sign = 1 := Int.sign_eq_one_of_pos (by exact_mod_cast hd)
  rw [roundHalfAway, hsign, Int.mul_one, Int.natAbs_natCast, Int.natAbs_natCast]
  rcases Nat.eq_zero_or_pos n with rfl | hn
  · rw [Nat.mul_zero, Nat.zero_add, Nat.div_eq_of_lt (by omega)]
    rfl
  · rw [Int.sign_eq_one_of_pos (by exact_mod_cast hn), Int.one_mul]

theorem isNearest_natCast (n : ℕ) {d : ℕ} (hd : 0 < d) :
    IsNearest ((n : ℚ) / d) (((2 * n + d) / (2 * d) : ℕ) : ℤ) := by
  let k := (2 * n + d) / (2 * d)
  have hpos : (0 : ℚ) < d := by exact_mod_cast hd
  have hlower : (2 * d * k : ℚ) ≤ 2 * n + d := by
    exact_mod_cast Nat.mul_div_le (2 * n + d) (2 * d)
  have hupper : (2 * n + d : ℚ) < 2 * d * (k + 1) := by
    exact_mod_cast Nat.lt_mul_div_succ (2 * n + d) (by omega : 0 < 2 * d)
  have hle : (k : ℚ) - 1 / 2 ≤ n / d := by
    rw [le_div_iff₀ hpos]
    linarith
  have hlt : (n / d : ℚ) < k + 1 / 2 := by
    rw [div_lt_iff₀ hpos]
    linarith
  have hquotient : (0 : ℚ) ≤ n / d := by positivity
  have hinteger : (0 : ℚ) ≤ k := Nat.cast_nonneg k
  change IsNearest ((n : ℚ) / d) (k : ℤ)
  constructor
  · rw [Int.cast_natCast, abs_le]
    constructor
    · linarith
    · linarith
  · intro hhalf
    rw [Int.cast_natCast] at hhalf ⊢
    rw [abs_of_nonneg hquotient, abs_of_nonneg hinteger]
    rcases abs_cases ((n / d : ℚ) - k) with ⟨hcase, _⟩ | ⟨hcase, _⟩
    · linarith
    · linarith

theorem isNearest_roundHalfAway (n : ℤ) {d : ℤ} (hd : d ≠ 0) :
    IsNearest ((n : ℚ) / d) (roundHalfAway n d) := by
  have hnat (m : ℕ) {e : ℕ} (he : 0 < e) : IsNearest ((m : ℚ) / e) (roundHalfAway m e) := by
    rw [roundHalfAway_natCast m he]
    exact isNearest_natCast m he
  have hleft (m : ℤ) {e : ℕ} (he : 0 < e) : IsNearest ((m : ℚ) / e) (roundHalfAway m e) := by
    rcases Int.eq_nat_or_neg m with ⟨k, rfl | rfl⟩
    · exact hnat k he
    · rw [roundHalfAway_neg_left, Int.cast_neg, neg_div]
      exact (hnat k he).neg
  rcases Int.eq_nat_or_neg d with ⟨e, rfl | rfl⟩
  · exact hleft n (Nat.pos_of_ne_zero (by exact_mod_cast hd))
  · rw [roundHalfAway_neg_right, Int.cast_neg, div_neg]
    exact (hleft n (Nat.pos_of_ne_zero (by simpa using hd))).neg

/-!
# Rounding by the remainder

A remainder of half the divisor or more makes up for one.
-/

theorem roundByRemainder_natCast (n : ℕ) {d : ℕ} (hd : 0 < d) :
    roundByRemainder n d = ((2 * n + d) / (2 * d) : ℕ) := by
  have hrest := Nat.mod_lt n hd
  have hsplit : (2 * n + d) / (2 * d) = n / d + (2 * (n % d) + d) / (2 * d) := by
    conv => lhs; rw [← Nat.div_add_mod n d]
    rw [← Nat.mul_add_div (by omega : 0 < 2 * d)]
    congr 1
    ring
  have htruncated : (n : ℤ).tdiv d = (n / d : ℕ) := rfl
  have hremainder : (n : ℤ).tmod d = (n % d : ℕ) := rfl
  rw [roundByRemainder, if_pos (Int.natCast_nonneg n), htruncated, hremainder, hsplit]
  split
  · rw [show (2 * (n % d) + d) / (2 * d) = 1 from
      Nat.div_eq_of_lt_le (by omega) (by omega)]
    rfl
  · rw [show (2 * (n % d) + d) / (2 * d) = 0 from Nat.div_eq_of_lt (by omega)]
    rfl

theorem roundByRemainder_neg (n : ℤ) {d : ℤ} (hd : 0 < d) :
    roundByRemainder (-n) d = -roundByRemainder n d := by
  rw [roundByRemainder, roundByRemainder, Int.neg_tdiv, Int.neg_tmod]
  rcases lt_trichotomy n 0 with hn | rfl | hn
  · rw [if_pos (show 0 ≤ -n by omega), if_neg (show ¬ 0 ≤ n by omega)]
    omega
  · rw [if_neg (show ¬ d - d / 2 ≤ -Int.tmod 0 d by rw [Int.zero_tmod]; omega),
      if_neg (show ¬ d - d / 2 ≤ Int.tmod 0 d by rw [Int.zero_tmod]; omega), Int.zero_tdiv]
    rfl
  · rw [if_neg (show ¬ 0 ≤ -n by omega), if_pos (show 0 ≤ n by omega), neg_neg]
    omega

theorem roundByRemainder_eq (n : ℤ) {d : ℤ} (hd : 0 < d) :
    roundByRemainder n d = roundHalfAway n d := by
  have hnat (m : ℕ) : roundByRemainder m d = roundHalfAway m d := by
    lift d to ℕ using hd.le
    have hpos : 0 < d := by exact_mod_cast hd
    rw [roundByRemainder_natCast m hpos, roundHalfAway_natCast m hpos]
  rcases Int.eq_nat_or_neg n with ⟨m, rfl | rfl⟩
  · exact hnat m
  · rw [roundByRemainder_neg _ hd, roundHalfAway_neg_left, hnat]

end SubtitleExchange
