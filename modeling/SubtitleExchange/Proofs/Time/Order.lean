import Mathlib.Algebra.BigOperators.Ring.List
import Mathlib.Algebra.Group.Nat.Even
import SubtitleExchange.Proofs.Time.Rescale

/-!
# The order of times

A conversion keeps the order of times or turns it round, by the signs of the two bases. The counts
whose product is held in a word lie around zero without a gap, so a count that is taken for outermost
is never followed by a larger one that is not.
-/

namespace SubtitleExchange

theorem IsNearest.le_of_le {q r : ℚ} {z w : ℤ} (hz : IsNearest q z) (hw : IsNearest r w)
    (h : q ≤ r) : z ≤ w := by
  rcases h.eq_or_lt with rfl | hlt
  · exact hw.le hz
  · have hznear := abs_le.mp hz.near
    have hwnear := abs_le.mp hw.near
    by_contra hnot
    have hstep : (w : ℚ) + 1 ≤ z := by
      exact_mod_cast Int.add_one_le_of_lt (not_le.mp hnot)
    linarith

theorem saturate_le_saturate {z w : Int} (h : z ≤ w) : saturate z ≤ saturate w := by
  rw [Int64.le_iff_toInt_le, toInt_saturate, toInt_saturate]
  omega

namespace TimeBase

section

variable {source target : TimeBase} {v w : Int64}

/-!
# Quotients in order

The product is the quotient times the divisor, so between zero and a product that is held lie only
products that are held.
-/

theorem product_eq (hsource : source.isValid = true) (htarget : target.isValid = true)
    (value : Int64) :
    (product source value target : ℚ) =
      quotient source value target * (divisor source target : ℚ) := by
  have hdivisor : (divisor source target : ℚ) ≠ 0 := by
    exact_mod_cast divisor_ne_zero hsource htarget
  rw [quotient_eq, div_mul_cancel₀ _ hdivisor]

/-- The second number lies between zero and the first. -/
def Within {α : Type} [LE α] [Zero α] (outer inner : α) : Prop :=
  0 ≤ inner ∧ inner ≤ outer ∨ outer ≤ inner ∧ inner ≤ 0

theorem within_product (hsource : source.isValid = true) (htarget : target.isValid = true)
    (h : Within (quotient source v target) (quotient source w target)) :
    Within (product source v target) (product source w target) := by
  have hv := product_eq hsource htarget v
  have hw := product_eq hsource htarget w
  suffices hrational : Within (product source v target : ℚ) (product source w target : ℚ) by
    simpa only [Within, Int.cast_nonneg_iff, Int.cast_nonpos, Int.cast_le] using hrational
  rw [hv, hw]
  rcases le_total 0 (divisor source target : ℚ) with hpos | hneg
  · rcases h with ⟨hzero, hle⟩ | ⟨hle, hzero⟩
    · exact .inl ⟨mul_nonneg hzero hpos, mul_le_mul_of_nonneg_right hle hpos⟩
    · exact .inr ⟨mul_le_mul_of_nonneg_right hle hpos, mul_nonpos_of_nonpos_of_nonneg hzero hpos⟩
  · rcases h with ⟨hzero, hle⟩ | ⟨hle, hzero⟩
    · exact .inr ⟨mul_le_mul_of_nonpos_right hle hneg, mul_nonpos_of_nonneg_of_nonpos hzero hneg⟩
    · exact .inl ⟨mul_nonneg_of_nonpos_of_nonpos hzero hneg, mul_le_mul_of_nonpos_right hle hneg⟩

theorem Fits.of_within (h : Fits source v target)
    (hwithin : Within (product source v target) (product source w target)) :
    Fits source w target := by
  have hleast : Word.least 128 ≤ 0 := by decide
  have hgreatest : 0 ≤ Word.greatest 128 := by decide
  obtain ⟨hlower, hupper, hopposite⟩ := h
  rw [Within] at hwithin
  refine ⟨by omega, by omega, ?_⟩
  intro hneg
  have hv := hopposite hneg
  omega

theorem rescale_eq_extreme (hsource : source.isValid = true) (htarget : target.isValid = true)
    (h : ¬ Fits source v target) :
    source.rescale v target = extreme (decide (quotient source v target < 0)) := by
  rw [rescale_of_not_fits hsource htarget h,
    quotient_neg_iff (product_ne_zero_of_not_fits h) (divisor_ne_zero hsource htarget)]

/-- A larger quotient gives no smaller result, whichever way each of the two results is found. -/
theorem rescale_le_of_quotient_le (hsource : source.isValid = true)
    (htarget : target.isValid = true)
    (h : quotient source v target ≤ quotient source w target) :
    source.rescale v target ≤ source.rescale w target := by
  by_cases hv : Fits source v target
  · by_cases hw : Fits source w target
    · rw [rescale_of_fits hsource htarget hv, rescale_of_fits hsource htarget hw]
      exact saturate_le_saturate ((isNearest_exactCount hsource htarget v).le_of_le
        (isNearest_exactCount hsource htarget w) h)
    -- A negative quotient of `w` would lie between zero and that of `v`, and its product would fit.
    · have hpos : ¬ quotient source w target < 0 := fun hneg =>
        hw (hv.of_within (within_product hsource htarget (.inr ⟨h, hneg.le⟩)))
      rw [rescale_eq_extreme hsource htarget hw, decide_eq_false hpos]
      exact Int64.le_maxValue _
  · by_cases hneg : quotient source v target < 0
    · rw [rescale_eq_extreme hsource htarget hv, decide_eq_true hneg]
      exact Int64.minValue_le _
    · have hpos := not_lt.mp hneg
      have hw : ¬ Fits source w target := fun hfits =>
        hv (hfits.of_within (within_product hsource htarget (.inl ⟨hpos, h⟩)))
      rw [rescale_eq_extreme hsource htarget hw, decide_eq_false (not_lt.mpr (hpos.trans h))]
      exact Int64.le_maxValue _

end

/-!
# Signs

Multiplied by the square of its divisor, a quotient is the count of ticks times the four parts of
the two bases.
-/

theorem prod_pos_iff_even_countP {parts : List Int64} (h : ∀ part ∈ parts, part ≠ 0) :
    0 < (parts.map Int64.toInt).prod ↔ Even (parts.countP fun part => part < 0) := by
  induction parts with
  | nil =>
      simp
  | cons part rest ih =>
      have hrest : ∀ other ∈ rest, other ≠ 0 :=
        fun other hother => h other (List.mem_cons_of_mem part hother)
      have hpart := toInt_ne_zero (h part List.mem_cons_self)
      have hprod : (rest.map Int64.toInt).prod ≠ 0 := by
        apply List.prod_ne_zero
        intro hzero
        obtain ⟨other, hother, hnil⟩ := List.mem_map.mp hzero
        exact toInt_ne_zero (hrest other hother) hnil
      rw [List.map_cons, List.prod_cons, List.countP_cons, mul_pos_iff]
      by_cases hneg : part < 0
      · have hsign : part.toInt < 0 := Int64.lt_iff_toInt_lt.mp hneg
        rw [if_pos (decide_eq_true hneg), Nat.even_add_one, ← ih hrest]
        omega
      · have hsign : ¬ part.toInt < 0 := fun hlt => hneg (Int64.lt_iff_toInt_lt.mpr hlt)
        rw [if_neg (by simpa using hneg), Nat.add_zero, ← ih hrest]
        omega

def parts (source target : TimeBase) : List Int64 :=
  [source.num, source.den, target.num, target.den]

/-- Positive if later times become larger numbers, negative if they become smaller ones. -/
def orientation (source target : TimeBase) : Int :=
  ((parts source target).map Int64.toInt).prod

section

variable {source target : TimeBase} {v w : Int64}

theorem parts_ne_zero (hsource : source.isValid = true) (htarget : target.isValid = true) :
    ∀ part ∈ parts source target, part ≠ 0 := by
  rw [isValid_iff] at hsource htarget
  simp [parts, hsource, htarget]

theorem orientation_pos_iff (hsource : source.isValid = true) (htarget : target.isValid = true) :
    0 < orientation source target ↔ Even ((parts source target).countP fun part => part < 0) :=
  prod_pos_iff_even_countP (parts_ne_zero hsource htarget)

theorem quotient_eq_orientation (hsource : source.isValid = true) (htarget : target.isValid = true)
    (value : Int64) :
    quotient source value target =
      (value.toInt * orientation source target : ℚ) / (divisor source target : ℚ) ^ 2 := by
  have hdivisor : (divisor source target : ℚ) ≠ 0 := by
    exact_mod_cast divisor_ne_zero hsource htarget
  have horientation : orientation source target =
      source.num.toInt * target.den.toInt * divisor source target := by
    simp only [orientation, parts, divisor, List.map_cons, List.map_nil, List.prod_cons,
      List.prod_nil]
    ring
  rw [quotient_eq, product, horientation, div_eq_div_iff hdivisor (pow_ne_zero 2 hdivisor)]
  push_cast
  ring

theorem quotient_le_of_mul_le (hsource : source.isValid = true) (htarget : target.isValid = true)
    (h : v.toInt * orientation source target ≤ w.toInt * orientation source target) :
    quotient source v target ≤ quotient source w target := by
  rw [quotient_eq_orientation hsource htarget, quotient_eq_orientation hsource htarget]
  apply div_le_div_of_nonneg_right _ (sq_nonneg _)
  exact_mod_cast h

theorem quotient_le_of_even (hsource : source.isValid = true) (htarget : target.isValid = true)
    (hsigns : Even ((parts source target).countP fun part => part < 0)) (h : v ≤ w) :
    quotient source v target ≤ quotient source w target := by
  have hforwards := (orientation_pos_iff hsource htarget).mpr hsigns
  have hvalues := Int64.le_iff_toInt_le.mp h
  exact quotient_le_of_mul_le hsource htarget
    (Int.mul_le_mul_of_nonneg_right hvalues hforwards.le)

theorem quotient_le_of_odd (hsource : source.isValid = true) (htarget : target.isValid = true)
    (hsigns : Odd ((parts source target).countP fun part => part < 0)) (h : v ≤ w) :
    quotient source w target ≤ quotient source v target := by
  have hbackwards : orientation source target ≤ 0 := by
    rw [← Nat.not_even_iff_odd, ← orientation_pos_iff hsource htarget] at hsigns
    exact not_lt.mp hsigns
  have hvalues := Int64.le_iff_toInt_le.mp h
  exact quotient_le_of_mul_le hsource htarget
    (Int.mul_le_mul_of_nonpos_right hvalues hbackwards)

end

/-- Times keep their order if an even number of the four parts of two bases is negative, and turn it
round if the number is odd. Without a base that can be used, all times are the same. -/
theorem rescale_order (source target : TimeBase) {v w : Int64} (h : v ≤ w) :
    (source.isValid = true → target.isValid = true →
      (Even ([source.num, source.den, target.num, target.den].countP fun part => part < 0) →
        source.rescale v target ≤ source.rescale w target) ∧
      (Odd ([source.num, source.den, target.num, target.den].countP fun part => part < 0) →
        source.rescale w target ≤ source.rescale v target)) ∧
    (source.isValid = false ∨ target.isValid = false →
      source.rescale v target = 0 ∧ source.rescale w target = 0) := by
  constructor
  · intro hsource htarget
    constructor
    · intro hsigns
      exact rescale_le_of_quotient_le hsource htarget
        (quotient_le_of_even hsource htarget hsigns h)
    · intro hsigns
      exact rescale_le_of_quotient_le hsource htarget
        (quotient_le_of_odd hsource htarget hsigns h)
  · intro hinvalid
    have hboth : (source.isValid && target.isValid) = false := Bool.and_eq_false_iff.mpr hinvalid
    exact ⟨rescale_of_invalid v hboth, rescale_of_invalid w hboth⟩

/-- Two and three of the widest seconds, counted backwards: the product of the second count is not
held any more. -/
theorem rescale_order_widestSecond :
    let backwards : TimeBase := ⟨-Int64.maxValue, Int64.maxValue⟩
    (2 : Int64) ≤ 3 ∧ widestSecond.isValid = true ∧ backwards.isValid = true ∧
      ([widestSecond.num, widestSecond.den, backwards.num, backwards.den].countP
        fun part => part < 0) = 1 ∧
      ¬ Fits widestSecond 3 backwards ∧
      widestSecond.rescale 3 backwards ≤ widestSecond.rescale 2 backwards ∧
      widestSecond.rescale 2 widestSecond ≤ widestSecond.rescale 3 widestSecond ∧
      (⟨0, 1⟩ : TimeBase).rescale 2 widestSecond = 0 := by
  intro backwards
  have hle : (2 : Int64) ≤ 3 := by decide
  have hvalid : widestSecond.isValid = true := by decide
  have hbackwards : backwards.isValid = true := by decide
  have hodd : ([widestSecond.num, widestSecond.den, backwards.num, backwards.den].countP
      fun part => part < 0) = 1 := by decide
  obtain ⟨hturned, _⟩ := rescale_order widestSecond backwards hle
  obtain ⟨hkept, _⟩ := rescale_order widestSecond widestSecond hle
  obtain ⟨_, hnone⟩ := rescale_order ⟨0, 1⟩ widestSecond hle
  refine ⟨hle, hvalid, hbackwards, hodd, by decide, ?_, ?_, ?_⟩
  · exact (hturned hvalid hbackwards).2 (by rw [hodd]; decide)
  · exact (hkept hvalid hvalid).1 (by decide)
  · exact (hnone (.inl (by decide))).1

end TimeBase
end SubtitleExchange
