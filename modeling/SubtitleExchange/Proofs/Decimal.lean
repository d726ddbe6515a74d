import SubtitleExchange.Decimal
import SubtitleExchange.Text.Cut

/-!
# What numerals show

A list of digits of known length is determined by its value. A numeral has zeros in front only as far
as its width asks for them, so its value determines its length too.
-/

namespace SubtitleExchange
namespace Decimal

/-!
# Digits and their value

Every digit has a place, and the digits behind it are worth less than one unit of that place.
-/

def IsDigits (cs : List Char) : Prop :=
  ∀ c ∈ cs, c.isDigit = true

theorem IsDigits.tail {c : Char} {cs : List Char} (h : IsDigits (c :: cs)) : IsDigits cs :=
  fun d hd => h d (List.mem_cons_of_mem c hd)

theorem IsDigits.digit_lt {c : Char} {cs : List Char} (h : IsDigits (c :: cs)) :
    '0'.toNat ≤ c.toNat ∧ c.toNat - '0'.toNat < 10 := by
  have hc := Char.isDigit_iff_toNat.mp (h c List.mem_cons_self)
  have hnine : '9'.toNat = '0'.toNat + 9 := rfl
  omega

theorem le_ofDigitChars (cs : List Char) (high : Nat) :
    high * Nat.pow 10 cs.length ≤ Nat.ofDigitChars 10 cs high := by
  induction cs generalizing high with
  | nil =>
      exact Nat.le_of_eq (Nat.mul_one high)
  | cons c rest ih =>
      have hpow : Nat.pow 10 (c :: rest).length = Nat.pow 10 rest.length * 10 := rfl
      calc
        high * Nat.pow 10 (c :: rest).length
            = 10 * high * Nat.pow 10 rest.length := by
              rw [hpow, Nat.mul_comm _ 10, ← Nat.mul_assoc, Nat.mul_comm high 10]
        _ ≤ (10 * high + (c.toNat - '0'.toNat)) * Nat.pow 10 rest.length :=
              Nat.mul_le_mul_right _ (Nat.le_add_right _ _)
        _ ≤ Nat.ofDigitChars 10 (c :: rest) high := by
              rw [Nat.ofDigitChars_cons]
              exact ih _

theorem ofDigitChars_lt {cs : List Char} (h : IsDigits cs) (high : Nat) :
    Nat.ofDigitChars 10 cs high < (high + 1) * Nat.pow 10 cs.length := by
  induction cs generalizing high with
  | nil =>
      exact Nat.lt_of_lt_of_eq (Nat.lt_succ_self high) (Nat.mul_one (high + 1)).symm
  | cons c rest ih =>
      have hc := h.digit_lt.2
      have hpow : Nat.pow 10 (c :: rest).length = Nat.pow 10 rest.length * 10 := rfl
      rw [Nat.ofDigitChars_cons]
      calc
        Nat.ofDigitChars 10 rest (10 * high + (c.toNat - '0'.toNat))
            < (10 * high + (c.toNat - '0'.toNat) + 1) * Nat.pow 10 rest.length := ih h.tail _
        _ ≤ (high + 1) * 10 * Nat.pow 10 rest.length :=
              Nat.mul_le_mul_right _ (by omega)
        _ = (high + 1) * Nat.pow 10 (c :: rest).length := by
              rw [hpow, Nat.mul_assoc, Nat.mul_comm 10]

/-- As many digits of the same value are the same digits. -/
theorem ofDigitChars_inj {cs ds : List Char} (hcs : IsDigits cs) (hds : IsDigits ds)
    (hlength : cs.length = ds.length) {a b : Nat}
    (h : Nat.ofDigitChars 10 cs a = Nat.ofDigitChars 10 ds b) : a = b ∧ cs = ds := by
  induction cs generalizing ds a b with
  | nil =>
      cases List.length_eq_zero_iff.mp hlength.symm
      exact ⟨h, rfl⟩
  | cons c rest ih =>
      cases ds with
      | nil =>
          cases hlength
      | cons d others =>
          rw [Nat.ofDigitChars_cons, Nat.ofDigitChars_cons] at h
          obtain ⟨hplace, hrest⟩ := ih hcs.tail hds.tail (Nat.succ.inj hlength) h
          have hc := hcs.digit_lt
          have hd := hds.digit_lt
          have hdigit : c = d := Char.toNat_inj.mp (by omega)
          exact ⟨by omega, by rw [hdigit, hrest]⟩

/-!
# Numerals
-/

/-- `cs` shows `n` in as many digits as it needs, with zeros in front where these are fewer than
`width`. -/
structure IsNumeral (width n : Nat) (cs : List Char) : Prop where
  isDigits : IsDigits cs
  value : Nat.ofDigitChars 10 cs 0 = n
  width_le : width ≤ cs.length
  head_ne : width < cs.length → cs.head? ≠ some '0'

namespace IsNumeral

variable {width n : Nat} {cs ds : List Char}

theorem lt_pow (h : IsNumeral width n cs) : n < Nat.pow 10 cs.length := by
  have hlt := ofDigitChars_lt h.isDigits 0
  rwa [h.value, Nat.zero_add, Nat.one_mul] at hlt

theorem pow_le (h : IsNumeral width n cs) (hlong : width < cs.length) :
    Nat.pow 10 (cs.length - 1) ≤ n := by
  cases cs with
  | nil =>
      cases hlong
  | cons c rest =>
      have hc := h.isDigits.digit_lt.1
      have hne : c.toNat ≠ '0'.toNat := by
        intro heq
        exact h.head_ne hlong (congrArg some (Char.toNat_inj.mp heq))
      have hfirst := le_ofDigitChars rest (10 * 0 + (c.toNat - '0'.toNat))
      rw [← Nat.ofDigitChars_cons, h.value] at hfirst
      calc
        Nat.pow 10 rest.length = 1 * Nat.pow 10 rest.length := (Nat.one_mul _).symm
        _ ≤ (10 * 0 + (c.toNat - '0'.toNat)) * Nat.pow 10 rest.length :=
              Nat.mul_le_mul_right _ (by omega)
        _ ≤ n := hfirst

theorem length_le (hcs : IsNumeral width n cs) (hds : IsNumeral width n ds) :
    cs.length ≤ ds.length := by
  rcases Nat.lt_or_ge width cs.length with hlong | hshort
  · have hpow : Nat.pow 10 (cs.length - 1) < Nat.pow 10 ds.length :=
      Nat.lt_of_le_of_lt (hcs.pow_le hlong) hds.lt_pow
    have hlt := (Nat.pow_lt_pow_iff_right (by decide)).mp hpow
    omega
  · exact Nat.le_trans hshort hds.width_le

theorem unique (hcs : IsNumeral width n cs) (hds : IsNumeral width n ds) : cs = ds := by
  have hlength : cs.length = ds.length :=
    Nat.le_antisymm (hcs.length_le hds) (hds.length_le hcs)
  exact (ofDigitChars_inj hcs.isDigits hds.isDigits hlength (hcs.value.trans hds.value.symm)).2

end IsNumeral

theorem isDigits_digits (width n : Nat) : IsDigits (digits width n) :=
  fun _ hc => isDigit_of_mem_digits hc

theorem digits_of_lt_length {width n : Nat} (h : width < (digits width n).length) :
    digits width n = Nat.toDigits 10 n ∧ width < (Nat.toDigits 10 n).length := by
  have hlength : (digits width n).length = max width (Nat.toDigits 10 n).length :=
    List.length_leftpad
  have hzeros : width - (Nat.toDigits 10 n).length = 0 := by omega
  refine ⟨?_, by omega⟩
  rw [digits_eq_append, hzeros, List.replicate_zero, List.nil_append]

theorem isNumeral_digits {width : Nat} (hwidth : 0 < width) (n : Nat) :
    IsNumeral width n (digits width n) where
  isDigits := isDigits_digits width n
  value := ofDigitChars_digits width n
  width_le := le_length_digits width n
  head_ne := by
    intro hlong hzero
    obtain ⟨hdigits, hlength⟩ := digits_of_lt_length hlong
    have hvalue := ofDigitChars_digits width n
    have hall := isDigits_digits width n
    rw [hdigits] at hzero hvalue hall
    obtain ⟨rest, hrest⟩ := List.head?_eq_some_iff.mp hzero
    rw [hrest] at hvalue hall hlength
    -- Without its leading zero the numeral would be shorter and have the same value.
    have hlt : n < Nat.pow 10 rest.length := by
      have hbound := ofDigitChars_lt hall.tail 0
      rw [Nat.ofDigitChars_cons] at hvalue
      rwa [Nat.zero_add, Nat.one_mul, show Nat.ofDigitChars 10 rest 0 = n from hvalue] at hbound
    rw [List.length_cons] at hlength
    have hshorter := (Nat.length_toDigits_le_iff (by decide) (by omega)).mpr hlt
    rw [hrest, List.length_cons] at hshorter
    omega

theorem isNumeral_iff {width : Nat} (hwidth : 0 < width) {n : Nat} {cs : List Char} :
    IsNumeral width n cs ↔ cs = digits width n := by
  constructor
  · intro h
    exact h.unique (isNumeral_digits hwidth n)
  · rintro rfl
    exact isNumeral_digits hwidth n

/-- A sign that is no digit ends the numeral before it. -/
theorem first_digits {c : Char} (h : c.isDigit = false) (width n : Nat) (rest : List Char) :
    Cut.first c (digits width n ++ c :: rest) = some (digits width n, rest) :=
  Cut.first_append rest (not_mem_digits h width n)

theorem digits_one (n : Nat) : digits 1 n = Nat.toDigits 10 n := by
  have hpos : 0 < (Nat.toDigits 10 n).length := Nat.length_toDigits_pos
  rw [digits_eq_append, Nat.sub_eq_zero_of_le hpos, List.replicate_zero, List.nil_append]

end Decimal
end SubtitleExchange
