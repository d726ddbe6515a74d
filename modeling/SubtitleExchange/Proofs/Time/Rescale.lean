import SubtitleExchange.Proofs.Time.Rounding
import SubtitleExchange.Time.Base

/-!
# When a conversion of time is exact

A conversion gives the nearest count of ticks, limited to 64 bits, as long as the number that is
divided is held in a word of 128 bits. When it is not, the result is the outermost number on the side
of the quotient, also where a large divisor would have brought the quotient back.
-/

namespace SubtitleExchange
namespace TimeBase

/-!
# Quotients that are formed

The divisor is made positive before the division, so the opposite of the product is needed as well
if the divisor is negative.
-/

def product (source : TimeBase) (value : Int64) (target : TimeBase) : Int :=
  value.toInt * source.num.toInt * target.den.toInt

def divisor (source target : TimeBase) : Int :=
  source.den.toInt * target.num.toInt

/-- A word holds the number that is divided. -/
def Fits (source : TimeBase) (value : Int64) (target : TimeBase) : Prop :=
  Word.least 128 ≤ product source value target ∧
    product source value target ≤ Word.greatest 128 ∧
    (divisor source target < 0 → -product source value target ≤ Word.greatest 128)

instance (source : TimeBase) (value : Int64) (target : TimeBase) :
    Decidable (Fits source value target) :=
  inferInstanceAs (Decidable (_ ∧ _ ∧ _))

/-- The exact quotient, neither rounded nor limited. -/
def quotient (source : TimeBase) (value : Int64) (target : TimeBase) : ℚ :=
  (value.toInt * source.num.toInt * target.den.toInt : ℚ) /
    (source.den.toInt * target.num.toInt)

section

variable {source target : TimeBase}

theorem toInt_ne_zero {v : Int64} (h : v ≠ 0) : v.toInt ≠ 0 := by
  intro hzero
  exact h (Int64.toInt_inj.mp hzero)

theorem isValid_iff (base : TimeBase) : base.isValid = true ↔ base.num ≠ 0 ∧ base.den ≠ 0 := by
  rw [isValid, Bool.and_eq_true, bne_iff_ne, bne_iff_ne]

theorem divisor_ne_zero (hsource : source.isValid = true) (htarget : target.isValid = true) :
    divisor source target ≠ 0 := by
  have hden := ((isValid_iff source).mp hsource).2
  have hnum := ((isValid_iff target).mp htarget).1
  exact Int.mul_ne_zero (toInt_ne_zero hden) (toInt_ne_zero hnum)

theorem quotient_eq (source : TimeBase) (value : Int64) (target : TimeBase) :
    quotient source value target =
      (product source value target : ℚ) / (divisor source target : ℚ) := by
  rw [quotient, product, divisor]
  push_cast
  rfl

theorem isNearest_exactCount (hsource : source.isValid = true) (htarget : target.isValid = true)
    (value : Int64) : IsNearest (quotient source value target) (source.exactCount value target) := by
  rw [quotient_eq]
  exact isNearest_roundHalfAway _ (divisor_ne_zero hsource htarget)

theorem rescale_of_valid (hsource : source.isValid = true) (htarget : target.isValid = true)
    (value : Int64) :
    source.rescale value target =
      match Word.checked 128 (product source value target) with
      | some numerator => divide numerator (divisor source target)
      | none =>
          extreme (decide (product source value target < 0) ^^
            decide (divisor source target < 0)) := by
  rw [rescale, hsource, htarget]
  rfl

theorem divide_of_fits {n d : Int} (hd : d ≠ 0) (hfits : d < 0 → -n ≤ Word.greatest 128)
    (hleast : n ≤ Word.greatest 128) : divide n d = saturate (roundHalfAway n d) := by
  rw [divide]
  split
  · rename_i hneg
    have hopposite : Word.least 128 ≤ -n := by
      have hwords : Word.least 128 = -Word.greatest 128 - 1 := by decide
      omega
    rw [Word.checked_eq_some hopposite (hfits hneg)]
    dsimp only
    rw [roundByRemainder_eq _ (Int.neg_pos_of_neg hneg), roundHalfAway_neg_left,
      roundHalfAway_neg_right, neg_neg]
  · rename_i hneg
    rw [roundByRemainder_eq _ (by omega)]

theorem rescale_of_fits (hsource : source.isValid = true) (htarget : target.isValid = true)
    {value : Int64} (hfits : Fits source value target) :
    source.rescale value target =
      saturate (source.exactCount value target) := by
  obtain ⟨hleast, hgreatest, hopposite⟩ := hfits
  rw [rescale_of_valid hsource htarget, Word.checked_eq_some hleast hgreatest]
  exact divide_of_fits (divisor_ne_zero hsource htarget) hopposite hgreatest

/-- A product that is the least number of a word has no opposite there. It is negative, so with a
negative divisor the quotient is positive, as the result is. -/
theorem rescale_of_not_fits (hsource : source.isValid = true) (htarget : target.isValid = true)
    {value : Int64} (hfits : ¬ Fits source value target) :
    source.rescale value target =
      extreme (decide (product source value target < 0) ^^
        decide (divisor source target < 0)) := by
  rw [rescale_of_valid hsource htarget]
  cases hchecked : Word.checked 128 (product source value target) with
  | none =>
      rfl
  | some numerator =>
      rw [Word.checked] at hchecked
      split at hchecked
      · rename_i hword
        cases hchecked
        have hopposite : divisor source target < 0 ∧
            Word.greatest 128 < -product source value target := by
          by_contra hnot
          apply hfits
          refine ⟨hword.1, hword.2, ?_⟩
          intro hneg
          by_contra hlt
          exact hnot ⟨hneg, not_le.mp hlt⟩
        have hpositive : 0 ≤ Word.greatest 128 := by decide
        have hnegative : product source value target < 0 := by omega
        have hunheld : Word.checked 128 (-product source value target) = none :=
          Word.checked_eq_none_iff.mpr (.inr hopposite.2)
        dsimp only
        rw [divide, if_pos hopposite.1, hunheld, decide_eq_true hnegative,
          decide_eq_true hopposite.1]
        rfl
      · cases hchecked

theorem product_ne_zero_of_not_fits {value : Int64} (hfits : ¬ Fits source value target) :
    product source value target ≠ 0 := by
  intro hzero
  have hleast : Word.least 128 ≤ 0 := by decide
  have hgreatest : 0 ≤ Word.greatest 128 := by decide
  apply hfits
  rw [Fits, hzero]
  exact ⟨hleast, hgreatest, fun _ => hgreatest⟩

theorem quotient_neg_iff {value : Int64} (hproduct : product source value target ≠ 0)
    (hdivisor : divisor source target ≠ 0) :
    decide (quotient source value target < 0) =
      (decide (product source value target < 0) ^^ decide (divisor source target < 0)) := by
  rw [quotient_eq, Bool.eq_iff_iff, decide_eq_true_iff, div_neg_iff]
  norm_cast
  by_cases hp : product source value target < 0
  · by_cases hd : divisor source target < 0
    · simp [hp, hd, not_lt.mpr hp.le, not_lt.mpr hd.le]
    · have hpos : 0 < divisor source target := by omega
      simp [hp, hd, hpos]
  · have hpos : 0 < product source value target := by omega
    simp [hp, hpos]

/-!
# Outermost numbers
-/

theorem saturate_eq_minValue_iff (z : Int) :
    saturate z = Int64.minValue ↔ z ≤ Int64.minValue.toInt := by
  have hlt : Int64.minValue.toInt < Int64.maxValue.toInt := by decide
  rw [← Int64.toInt_inj, toInt_saturate]
  omega

theorem saturate_eq_maxValue_iff (z : Int) :
    saturate z = Int64.maxValue ↔ Int64.maxValue.toInt ≤ z := by
  have hlt : Int64.minValue.toInt < Int64.maxValue.toInt := by decide
  rw [← Int64.toInt_inj, toInt_saturate]
  omega

theorem extreme_eq_saturate_iff {q : ℚ} {z : ℤ} (h : IsNearest q z) :
    extreme (decide (q < 0)) = saturate z ↔
      z ≤ Int64.minValue.toInt ∨ Int64.maxValue.toInt ≤ z := by
  have hmin : Int64.minValue.toInt < 0 := by decide
  have hmax : 0 < Int64.maxValue.toInt := by decide
  by_cases hq : q < 0
  · have hz := h.nonpos hq.le
    rw [decide_eq_true hq, extreme, if_pos rfl, eq_comm, saturate_eq_minValue_iff]
    omega
  · have hz := h.nonneg (not_lt.mp hq)
    rw [decide_eq_false hq, extreme, if_neg Bool.false_ne_true, eq_comm,
      saturate_eq_maxValue_iff]
    omega

/-- A conversion finds the nearest count of ticks, limited to 64 bits, exactly if the number that is
divided is held in a word or the count is outermost anyway. -/
theorem rescale_eq_saturate_iff (hsource : source.isValid = true) (htarget : target.isValid = true)
    (value : Int64) :
    IsNearest (quotient source value target) (source.exactCount value target) ∧
      source.rescale value target =
        (if Fits source value target then saturate (source.exactCount value target)
          else extreme (decide (quotient source value target < 0))) ∧
      (source.rescale value target = saturate (source.exactCount value target) ↔
        Fits source value target ∨
          source.exactCount value target ≤ Int64.minValue.toInt ∨
          Int64.maxValue.toInt ≤ source.exactCount value target) := by
  have hdivisor := divisor_ne_zero hsource htarget
  have hnearest := isNearest_exactCount hsource htarget value
  refine ⟨hnearest, ?_⟩
  by_cases hfits : Fits source value target
  · have hresult := rescale_of_fits hsource htarget hfits
    rw [if_pos hfits]
    exact ⟨hresult, fun _ => .inl hfits, fun _ => hresult⟩
  · have hresult := rescale_of_not_fits hsource htarget hfits
    rw [← quotient_neg_iff (product_ne_zero_of_not_fits hfits) hdivisor] at hresult
    rw [if_neg hfits]
    refine ⟨hresult, ?_⟩
    rw [hresult, extreme_eq_saturate_iff hnearest]
    exact ⟨.inr, fun h => h.resolve_left hfits⟩

end

/-- In a conversion to the same base all factors but the count of ticks cancel. -/
theorem quotient_self {base : TimeBase} (h : base.isValid = true) (value : Int64) :
    quotient base value base = value.toInt := by
  have hdivisor : (base.den.toInt * base.num.toInt : ℚ) ≠ 0 := by
    exact_mod_cast divisor_ne_zero h h
  rw [quotient, mul_assoc, mul_comm (base.num.toInt : ℚ), mul_div_assoc, div_self hdivisor,
    mul_one]

/-- A tick of one second, in the largest numbers. -/
def widestSecond : TimeBase := ⟨Int64.maxValue, Int64.maxValue⟩

theorem rescale_of_widestSecond :
    widestSecond.isValid = true ∧ Fits widestSecond 2 widestSecond ∧
      widestSecond.rescale 2 widestSecond = 2 := by
  have hvalid : widestSecond.isValid = true := by decide
  have hfits : Fits widestSecond 2 widestSecond := by decide
  obtain ⟨hnearest, _, hexact⟩ := rescale_eq_saturate_iff hvalid hvalid 2
  rw [quotient_self hvalid] at hnearest
  have htwo : widestSecond.exactCount 2 widestSecond = (2 : Int64).toInt :=
    hnearest.unique (IsNearest.intCast _)
  refine ⟨hvalid, hfits, ?_⟩
  rw [hexact.mpr (.inl hfits), htwo, saturate_toInt]

/-- Three such ticks are not three of them, since their product is not held any more. -/
theorem rescale_ne_of_wide_product :
    widestSecond.isValid = true ∧ IsNearest (quotient widestSecond 3 widestSecond) 3 ∧
      widestSecond.rescale 3 widestSecond ≠ saturate 3 := by
  have hvalid : widestSecond.isValid = true := by decide
  refine ⟨hvalid, ?_, by decide⟩
  rw [quotient_self hvalid]
  exact IsNearest.intCast 3

end TimeBase
end SubtitleExchange
