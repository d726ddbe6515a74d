import SubtitleExchange.Proofs.Time.Milliseconds
import SubtitleExchange.Proofs.Time.Order
import SubtitleExchange.Proofs.Word

/-!
# Conversions in machine words

No number on the way of a conversion leaves the words of 128 bits unnoticed. What is formed first are
products of two numbers of 64 bits. What comes after a division lies between zero and the dividend or
between zero and the divisor, and these two are held already.
-/

namespace SubtitleExchange
namespace TimeBase

/-!
# Between zero and a number
-/

theorem Within.holds {bits : Nat} {n z : Int} (h : Within n z) (hn : Word.Holds bits n) :
    Word.Holds bits z := by
  have hpos := Word.negatives_pos bits
  rw [Within] at h
  rw [Word.Holds, Word.least, Word.greatest] at hn ⊢
  omega

/-- It is enough to look at one side of zero where the other side is its mirror image. -/
theorem within_of_odd {f : Int → Int} (hodd : ∀ n, f (-n) = -f n)
    (hnat : ∀ m : Nat, 0 ≤ f m ∧ f m ≤ m) (n : Int) : Within n (f n) := by
  rcases Int.eq_nat_or_neg n with ⟨m, rfl | rfl⟩
  · exact .inl (hnat m)
  · have hm := hnat m
    rw [hodd]
    exact .inr ⟨by omega, by omega⟩

theorem within_tdiv (n : Int) {d : Int} (hd : 0 < d) : Within n (n.tdiv d) := by
  apply within_of_odd (fun n => Int.neg_tdiv n d)
  intro m
  exact ⟨Int.tdiv_nonneg (Int.natCast_nonneg m) hd.le, Int.tdiv_le_self _ (Int.natCast_nonneg m)⟩

theorem within_tmod (n d : Int) : Within n (n.tmod d) := by
  apply within_of_odd (fun n => Int.neg_tmod n d)
  intro m
  have hsize : ((m : Int).tmod d).natAbs ≤ m := by
    rw [Int.natAbs_tmod]
    exact Nat.mod_le m d.natAbs
  exact ⟨Int.tmod_nonneg d (Int.natCast_nonneg m), by omega⟩

theorem within_neg_tmod {n d : Int} (hn : n ≤ 0) (hd : 0 < d) : Within d (-n.tmod d) := by
  have hneg : n.tmod d ≤ 0 := by
    rcases within_tmod n d with ⟨_, hle⟩ | ⟨_, hle⟩
    · exact hle.trans hn
    · exact hle
  have hgt := Int.lt_tmod_of_pos n hd
  exact .inl ⟨by omega, by omega⟩

/-- A rounded quotient is no farther from zero than the dividend, since a divisor of one leaves
nothing to round. -/
theorem within_roundByRemainder (n : Int) {d : Int} (hd : 0 < d) :
    Within n (roundByRemainder n d) := by
  apply within_of_odd (fun n => roundByRemainder_neg n hd)
  intro m
  lift d to ℕ using hd.le
  have hpos : 0 < d := by exact_mod_cast hd
  have hgrows : m ≤ m * d := Nat.le_mul_of_pos_right m hpos
  have hle : (2 * m + d) / (2 * d) ≤ m := by
    rw [← Nat.lt_add_one_iff, Nat.div_lt_iff_lt_mul (by omega)]
    calc 2 * m + d < 2 * (m * d) + 2 * d := by omega
      _ = (m + 1) * (2 * d) := by ring
  rw [roundByRemainder_natCast m hpos]
  exact ⟨Int.natCast_nonneg _, by exact_mod_cast hle⟩

/-!
# Rounding
-/

/-- The numbers on the way to a rounded quotient are held, and the divisor is positive. -/
structure RoundsInWords (n d : Int) : Prop where
  divisor_pos : 0 < d
  half : Word.Holds 128 (d.tdiv 2)
  threshold : Word.Holds 128 (d - d.tdiv 2)
  quotient : Word.Holds 128 (n.tdiv d)
  remainder : Word.Holds 128 (n.tmod d)
  opposite : n < 0 → Word.Holds 128 (-n.tmod d)
  rounded : Word.Holds 128 (roundByRemainder n d)

theorem roundsInWords {n d : Int} (hn : Word.Holds 128 n) (hd : Word.Holds 128 d) (hpos : 0 < d) :
    RoundsInWords n d where
  divisor_pos := hpos
  half := (within_tdiv d (by decide)).holds hd
  threshold := by
    have hhalf := within_tdiv d (show (0 : Int) < 2 by decide)
    have hthreshold : Within d (d - d.tdiv 2) := by
      rw [Within] at hhalf ⊢
      omega
    exact hthreshold.holds hd
  quotient := (within_tdiv n hpos).holds hn
  remainder := (within_tmod n d).holds hn
  opposite hneg := (within_neg_tmod hneg.le hpos).holds hd
  rounded := (within_roundByRemainder n hpos).holds hn

theorem RoundsInWords.eq_some {n d : Int} (h : RoundsInWords n d) :
    roundInWords? n d = some (roundByRemainder n d) := by
  have hhalf : d.tdiv 2 = d / 2 := Int.tdiv_eq_ediv_of_nonneg h.divisor_pos.le
  have hthreshold := Word.checked_of_holds h.threshold
  have hrounded := Word.checked_of_holds h.rounded
  rw [hhalf] at hthreshold
  simp only [roundInWords?, Option.bind_eq_bind, Option.bind_some,
    Word.quotient?_of_holds (by decide) h.half, hhalf, hthreshold,
    Word.quotient?_of_holds h.divisor_pos h.quotient,
    Word.remainder?_of_holds h.divisor_pos h.quotient h.remainder]
  rw [roundByRemainder] at hrounded ⊢
  by_cases hn : 0 ≤ n
  · rw [if_pos hn] at hrounded ⊢
    rw [if_pos hn]
    exact hrounded
  · rw [if_neg hn] at hrounded ⊢
    rw [if_neg hn, Word.checked_of_holds (h.opposite (not_le.mp hn)), Option.bind_some]
    exact hrounded

theorem divideInWords?_eq {n d : Int} (hn : Word.Holds 128 n) (hd : Word.Holds 128 d)
    (hopposite : Word.Holds 128 (-d)) (hzero : d ≠ 0) :
    divideInWords? n d = some (divide n d) := by
  rw [divideInWords?, divide]
  by_cases hneg : d < 0
  · rw [if_pos hneg, if_pos hneg]
    cases hchecked : Word.checked 128 (-n) with
    | none =>
        rfl
    | some m =>
        have hrounds := roundsInWords (Word.holds_of_checked hchecked) hopposite
          (Int.neg_pos_of_neg hneg)
        simp only [Word.checked_of_holds hopposite, hrounds.eq_some, Option.bind_eq_bind,
          Option.bind_some]
        rfl
  · have hrounds := roundsInWords hn hd (by omega)
    rw [if_neg hneg, if_neg hneg, hrounds.eq_some]
    rfl

/-!
# Products
-/

theorem holds_mul (v w : Int64) :
    Word.Holds 128 (v.toInt * w.toInt) ∧ Word.Holds 128 (-(v.toInt * w.toInt)) := by
  have hsize : (v.toInt * w.toInt).natAbs < Word.negatives 128 := by
    rw [Int.natAbs_mul]
    calc v.toInt.natAbs * w.toInt.natAbs
        ≤ 2 ^ 63 * 2 ^ 63 := Nat.mul_le_mul (natAbs_toInt_le v) (natAbs_toInt_le w)
      _ < Word.negatives 128 := by decide
  constructor
  · exact Word.holds_of_natAbs_lt hsize
  · apply Word.holds_of_natAbs_lt
    rwa [Int.natAbs_neg]

theorem decide_mul_neg {a b : Int} (ha : a ≠ 0) (hb : b ≠ 0) :
    decide (a * b < 0) = (decide (a < 0) ^^ decide (b < 0)) := by
  rw [Bool.eq_iff_iff, decide_eq_true_iff, mul_neg_iff]
  rcases lt_or_gt_of_ne ha with hneg | hpos
  · simp [hneg, hneg.not_gt]
    omega
  · simp [hpos, hpos.not_gt]

/-- The sign of a product that is not held is found from the signs of its factors. -/
theorem decide_product_neg {source target : TimeBase} {value : Int64}
    (h : product source value target ≠ 0) :
    decide (product source value target < 0) =
      (decide (value < 0) ^^ decide (source.num < 0) ^^ decide (target.den < 0)) := by
  obtain ⟨hscaled, hden⟩ := mul_ne_zero_iff.mp h
  obtain ⟨hvalue, hnum⟩ := mul_ne_zero_iff.mp hscaled
  rw [product, decide_mul_neg hscaled hden, decide_mul_neg hvalue hnum]
  simp only [Int64.lt_iff_toInt_lt, Int64.toInt_zero]

/-!
# Whole conversions
-/

theorem rescaleInWords?_eq (source : TimeBase) (value : Int64) (target : TimeBase) :
    source.rescaleInWords? value target = some (source.rescale value target) := by
  cases hvalid : source.isValid && target.isValid with
  | false =>
      rw [rescale_of_invalid value hvalid, rescaleInWords?, hvalid]
      rfl
  | true =>
      obtain ⟨hsource, htarget⟩ := Bool.and_eq_true_iff.mp hvalid
      obtain ⟨hdivisor, hopposite⟩ := holds_mul source.den target.num
      have hscaled := Word.checked_of_holds (holds_mul value source.num).1
      have hwhole : Word.checked 128 (value.toInt * source.num.toInt * target.den.toInt) =
          Word.checked 128 (product source value target) := rfl
      rw [rescale_of_valid hsource htarget, rescaleInWords?, hvalid, if_pos rfl,
        Word.checked_of_holds hdivisor, hscaled]
      dsimp only [Option.bind_eq_bind, Option.bind_some]
      rw [hwhole]
      by_cases hproduct : Word.Holds 128 (product source value target)
      · rw [Word.checked_of_holds hproduct]
        exact divideInWords?_eq hproduct hdivisor hopposite (divisor_ne_zero hsource htarget)
      · have hnonzero : product source value target ≠ 0 := by
          intro hzero
          rw [hzero] at hproduct
          exact hproduct (by decide)
        rw [Word.checked_of_not_holds hproduct]
        dsimp only
        rw [decide_product_neg hnonzero]
        rfl

/-- No number on the way of a conversion leaves the word but the product and its opposite, for which
the conversion looks. Every divisor is positive, so no quotient leaves the word either. -/
theorem rescale_in_words (source : TimeBase) (value : Int64) (target : TimeBase) :
    let n := product source value target
    let d := divisor source target
    source.rescaleInWords? value target = some (source.rescale value target) ∧
      (source.isValid = true → target.isValid = true → d ≠ 0) ∧
      Word.Holds 128 d ∧ Word.Holds 128 (-d) ∧
      Word.Holds 128 (value.toInt * source.num.toInt) ∧
      (0 < d → Word.Holds 128 n → RoundsInWords n d) ∧
      (d < 0 → Word.Holds 128 (-n) → RoundsInWords (-n) (-d)) := by
  intro n d
  obtain ⟨hdivisor, hopposite⟩ := holds_mul source.den target.num
  refine ⟨rescaleInWords?_eq source value target, divisor_ne_zero, hdivisor, hopposite,
    (holds_mul value source.num).1, ?_, ?_⟩
  · intro hpos hproduct
    exact roundsInWords hproduct hdivisor hpos
  · intro hneg hproduct
    exact roundsInWords hproduct hopposite (Int.neg_pos_of_neg hneg)

/-- The least word is divided by one, and a product of least numbers by a divisor that is negative. -/
theorem rescale_in_words_least :
    let source : TimeBase := ⟨Int64.minValue, 1⟩
    let target : TimeBase := ⟨1, -2⟩
    let backwards : TimeBase := ⟨Int64.minValue, Int64.minValue⟩
    let forwards : TimeBase := ⟨Int64.maxValue, 1⟩
    source.isValid = true ∧ target.isValid = true ∧
      product source Int64.minValue target = Word.least 128 ∧
      divisor source target = 1 ∧ divisor source target ≠ 0 ∧
      source.rescaleInWords? Int64.minValue target = some Int64.minValue ∧
      RoundsInWords (Word.least 128) 1 ∧
      divisor backwards forwards < 0 ∧
      Word.Holds 128 (-product backwards Int64.minValue forwards) ∧
      RoundsInWords (-product backwards Int64.minValue forwards) (-divisor backwards forwards) := by
  intro source target backwards forwards
  have hproduct : product source Int64.minValue target = Word.least 128 := by decide
  have hdivisor : divisor source target = 1 := by decide
  have hnegative : divisor backwards forwards < 0 := by decide
  have hopposite : Word.Holds 128 (-product backwards Int64.minValue forwards) := by decide
  obtain ⟨hresult, hnonzero, _, _, _, hrounds, _⟩ := rescale_in_words source Int64.minValue target
  obtain ⟨_, _, _, _, _, _, hopposites⟩ := rescale_in_words backwards Int64.minValue forwards
  have hword := hrounds (by decide) (by decide)
  have hleast : source.rescale Int64.minValue target = Int64.minValue := by decide
  rw [hproduct, hdivisor] at hword
  rw [hleast] at hresult
  exact ⟨by decide, by decide, hproduct, hdivisor, hnonzero (by decide) (by decide), hresult,
    hword, hnegative, hopposite, hopposites hnegative hopposite⟩

end TimeBase
end SubtitleExchange
