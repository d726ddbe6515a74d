/-!
# Decimal numerals

Numbers are written with at least a given count of digits, zeros in front. They are read back from
ASCII digits, before which one plus sign may stand where a command takes a number.
-/

namespace SubtitleExchange
namespace Decimal

def digits (width n : Nat) : List Char :=
  (Nat.toDigits 10 n).leftpad width '0'

def padded (width n : Nat) : String :=
  String.ofList (digits width n)

theorem toList_padded (width n : Nat) : (padded width n).toList = digits width n :=
  String.toList_ofList

theorem digits_eq_append (width n : Nat) :
    digits width n =
      List.replicate (width - (Nat.toDigits 10 n).length) '0' ++ Nat.toDigits 10 n :=
  rfl

theorem digits_ne_nil (width n : Nat) : digits width n ≠ [] := by
  rw [digits_eq_append]
  exact List.append_ne_nil_of_right_ne_nil _ Nat.toDigits_ne_nil

theorem isDigit_of_mem_digits {width n : Nat} {c : Char} (h : c ∈ digits width n) :
    c.isDigit = true := by
  rw [digits_eq_append, List.mem_append] at h
  cases h with
  | inl hzero =>
      rw [List.eq_of_mem_replicate hzero]
      rfl
  | inr hdigit =>
      exact Nat.isDigit_of_mem_toDigits (by decide) (by decide) hdigit

theorem le_length_digits (width n : Nat) : width ≤ (digits width n).length := by
  rw [digits, List.length_leftpad]
  exact Nat.le_max_left width _

theorem length_digits {width n : Nat} (h : (Nat.toDigits 10 n).length ≤ width) :
    (digits width n).length = width := by
  rw [digits, List.length_leftpad]
  exact Nat.max_eq_left h

theorem length_digits_of_lt {width n : Nat} (hwidth : 0 < width) (h : n < Nat.pow 10 width) :
    (digits width n).length = width :=
  length_digits ((Nat.length_toDigits_le_iff (by decide) hwidth).mpr h)

theorem not_mem_digits {c : Char} (h : c.isDigit = false) (width n : Nat) : c ∉ digits width n := by
  intro hmem
  rw [isDigit_of_mem_digits hmem] at h
  cases h

theorem ofDigitChars_digits (width n : Nat) : Nat.ofDigitChars 10 (digits width n) 0 = n := by
  rw [digits_eq_append, Nat.ofDigitChars_append, Nat.ofDigitChars_replicate_zero, Nat.mul_zero,
    Nat.ofDigitChars_ten_toDigits]

/-!
# Reading

A numeral is not empty. Zeros in front do not change its value.
-/

def value? (cs : List Char) : Option Nat :=
  if cs.isEmpty || !cs.all Char.isDigit then none else some (Nat.ofDigitChars 10 cs 0)

theorem value?_digits (width n : Nat) : value? (digits width n) = some n := by
  have hempty : (digits width n).isEmpty = false := by
    simpa using digits_ne_nil width n
  have hall : (digits width n).all Char.isDigit = true :=
    List.all_eq_true.mpr fun c hc => isDigit_of_mem_digits hc
  simp [value?, hempty, hall, ofDigitChars_digits]

/-- One plus sign may precede the digits. -/
def read? (text : String) : Option Nat :=
  match text.toList with
  | '+' :: rest => value? rest
  | all => value? all

/-- A numeral whose value fits 32 bits. -/
def readUInt32? (text : String) : Option UInt32 :=
  (read? text).bind fun n => if n < UInt32.size then some (UInt32.ofNat n) else none

end Decimal
end SubtitleExchange
