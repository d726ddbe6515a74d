import SubtitleExchange.Proofs.Decimal
import SubtitleExchange.Proofs.Text.Plain
import SubtitleExchange.Time.Clock

/-!
# Times are read back

The signs between the parts of a time are no digits, so the parts are found again, and their values
make up the count of milliseconds.
-/

namespace SubtitleExchange
namespace Clock

open Physical

theorem toList_magnitudeText (millis : Nat) :
    (magnitudeText millis).toList =
      Decimal.digits 2 (millis / 3600000) ++ ':' :: (Decimal.digits 2 (millis / 60000 % 60) ++
        ':' :: (Decimal.digits 2 (millis / 1000 % 60) ++ '.' :: Decimal.digits 3 (millis % 1000))) := by
  simp [magnitudeText, String.toList_append, Decimal.toList_padded]

theorem readMagnitude?_magnitudeText (millis : Nat) :
    readMagnitude? (magnitudeText millis).toList = some millis := by
  have hcolon : ':'.isDigit = false := by decide
  have hpoint : '.'.isDigit = false := by decide
  have hminutes : millis / 60000 % 60 < 60 := Nat.mod_lt _ (by decide)
  have hseconds : millis / 1000 % 60 < 60 := Nat.mod_lt _ (by decide)
  have hmillis : millis % 1000 < Nat.pow 10 3 := Nat.mod_lt _ (by decide)
  have hsixty : 60 ≤ Nat.pow 10 2 := by decide
  have hsum : millis / 3600000 * 3600000 + millis / 60000 % 60 * 60000 +
      millis / 1000 % 60 * 1000 + millis % 1000 = millis := by
    omega
  rw [readMagnitude?, toList_magnitudeText]
  simp only [Option.bind_eq_bind, Option.bind_some, Decimal.first_digits hcolon,
    Decimal.first_digits hpoint, Decimal.value?_digits]
  rw [if_pos, hsum]
  · rfl
  · exact ⟨Decimal.le_length_digits 2 _,
      Decimal.length_digits_of_lt (by decide) (Nat.lt_of_lt_of_le hminutes hsixty), hminutes,
      Decimal.length_digits_of_lt (by decide) (Nat.lt_of_lt_of_le hseconds hsixty), hseconds,
      Decimal.length_digits_of_lt (by decide) hmillis⟩

theorem head_magnitudeText_ne (millis : Nat) (rest : List Char) :
    (magnitudeText millis).toList ≠ '-' :: rest := by
  intro h
  have hmem : '-' ∈ Decimal.digits 2 (millis / 3600000) := by
    cases hdigits : Decimal.digits 2 (millis / 3600000) with
    | nil =>
        exact absurd hdigits (Decimal.digits_ne_nil 2 _)
    | cons d more =>
        rw [toList_magnitudeText, hdigits, List.cons_append] at h
        injection h with hd _
        rw [hd]
        exact List.mem_cons_self
  exact Decimal.not_mem_digits (by decide) 2 _ hmem

theorem read?_signed {text : String} {cs : List Char} {n : Nat} (htext : text.toList = '-' :: cs)
    (hcs : readMagnitude? cs = some n) : read? text = some (-(n : Int)) := by
  rw [read?, htext]
  simp [hcs]

theorem read?_unsigned {text : String} {n : Nat} (htext : ∀ cs, text.toList ≠ '-' :: cs)
    (hcs : readMagnitude? text.toList = some n) : read? text = some (n : Int) := by
  rw [read?]
  split
  · rename_i cs hsign
    exact absurd hsign (htext cs)
  · simp [hcs]

theorem toList_signed (text : String) : ("-" ++ text).toList = '-' :: text.toList := by
  rw [String.toList_append]
  rfl

theorem read?_text (millis : Int64) : read? (text millis) = some millis.toInt := by
  have hmagnitude := readMagnitude?_magnitudeText millis.toInt.natAbs
  by_cases hneg : millis.toInt < 0
  · have hvalue : -(millis.toInt.natAbs : Int) = millis.toInt := by omega
    rw [text, if_pos hneg, read?_signed (toList_signed _) hmagnitude, hvalue]
  · have hvalue : (millis.toInt.natAbs : Int) = millis.toInt := by omega
    rw [text, if_neg hneg, String.empty_append,
      read?_unsigned (head_magnitudeText_ne _) hmagnitude, hvalue]

theorem isPlain_text (millis : Int64) : IsPlain (text millis) := by
  have hcolon : IsPlain ":" := by decide
  have hpoint : IsPlain "." := by decide
  have hsign : IsPlain (if millis.toInt < 0 then "-" else "") := by
    split <;> decide
  have hminutes := ((isPlain_padded 2 (millis.toInt.natAbs / 3600000)).append hcolon).append
    (isPlain_padded 2 (millis.toInt.natAbs / 60000 % 60))
  have hseconds := (hminutes.append hcolon).append
    (isPlain_padded 2 (millis.toInt.natAbs / 1000 % 60))
  exact hsign.append ((hseconds.append hpoint).append
    (isPlain_padded 3 (millis.toInt.natAbs % 1000)))

end Clock

theorem Timecode.isPlain_text (t : Timecode) : Physical.IsPlain t.text := by
  apply Physical.isPlain_intercalate (by decide)
  intro part hpart
  obtain ⟨b, _, rfl⟩ := List.mem_map.mp hpart
  exact Physical.isPlain_padded 2 b.toNat

end SubtitleExchange
