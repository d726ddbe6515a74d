import SubtitleExchange.Proofs.Decimal
import SubtitleExchange.Proofs.Time.Clock
import SubtitleExchange.Proofs.Time.Timecode
import SubtitleExchange.Script.Time

/-!
# Times as they are written

A time is written as hours, minutes and seconds, with a part of a second behind a point. Its numerals
show the parts of the time and nothing else, so a time is read from its text in one way only.
-/

namespace SubtitleExchange
namespace Clock

/-!
# Parts of a time

Every count is made up of hours, minutes, seconds and a part of a second in one way.
-/

/-- What a clock shows. The fraction counts thousandths of a second, or hundredths. -/
structure Parts where
  hours : Nat
  minutes : Nat
  seconds : Nat
  fraction : Nat
deriving DecidableEq

namespace Parts

/-- What is counted below the hours. -/
def below (p : Parts) : List Nat :=
  [p.minutes, p.seconds, p.fraction]

def count (second : Nat) (p : Parts) : Nat :=
  ((p.hours * 60 + p.minutes) * 60 + p.seconds) * second + p.fraction

def ofCount (second n : Nat) : Parts :=
  ⟨n / (3600 * second), n / (60 * second) % 60, n / second % 60, n % second⟩

structure IsProper (second : Nat) (p : Parts) : Prop where
  minutes_lt : p.minutes < 60
  seconds_lt : p.seconds < 60
  fraction_lt : p.fraction < second

variable {second : Nat} {p q : Parts}

theorem IsProper.forall₂ (h : p.IsProper second) :
    List.Forall₂ (· < ·) p.below [60, 60, second] :=
  .cons h.minutes_lt (.cons h.seconds_lt (.cons h.fraction_lt .nil))

theorem isProper_ofCount (hsecond : 0 < second) (n : Nat) : (ofCount second n).IsProper second where
  minutes_lt := Nat.mod_lt _ (by decide)
  seconds_lt := Nat.mod_lt _ (by decide)
  fraction_lt := Nat.mod_lt n hsecond

theorem count_ofCount (second n : Nat) : (ofCount second n).count second = n := by
  have hminutes : n / (60 * second) = n / second / 60 := by
    rw [Nat.div_div_eq_div_mul, Nat.mul_comm]
  have hhours : n / (3600 * second) = n / second / 3600 := by
    rw [Nat.div_div_eq_div_mul, Nat.mul_comm]
  have hseconds : (n / second / 3600 * 60 + n / second / 60 % 60) * 60 + n / second % 60 =
      n / second := by
    omega
  rw [count, ofCount, hhours, hminutes, hseconds]
  exact Nat.div_add_mod' n second

theorem count_lt_iff (hp : p.IsProper second) (hq : q.IsProper second) :
    p.count second < q.count second ↔ p.hours :: p.below < q.hours :: q.below :=
  Places.value_lt_iff hp.forall₂ hq.forall₂ p.hours q.hours

theorem eq_of_count_eq (hp : p.IsProper second) (hq : q.IsProper second)
    (h : p.count second = q.count second) : p = q := by
  obtain ⟨hwhole, hfraction⟩ :=
    (Places.mul_add_eq_iff hp.fraction_lt hq.fraction_lt _ _).mp h
  obtain ⟨hfull, hseconds⟩ :=
    (Places.mul_add_eq_iff hp.seconds_lt hq.seconds_lt _ _).mp hwhole
  obtain ⟨hhours, hminutes⟩ :=
    (Places.mul_add_eq_iff hp.minutes_lt hq.minutes_lt _ _).mp hfull
  cases p
  cases q
  rw [Parts.mk.injEq]
  exact ⟨hhours, hminutes, hseconds, hfraction⟩

theorem ofCount_count (hp : p.IsProper second) : ofCount second (p.count second) = p :=
  eq_of_count_eq (isProper_ofCount (Nat.zero_lt_of_lt hp.fraction_lt) _) hp (count_ofCount _ _)

/-- The same with hundredths of a second. What is less than one of them is dropped. -/
def shortened (p : Parts) : Parts :=
  { p with fraction := p.fraction / 10 }

theorem IsProper.shortened (h : p.IsProper 1000) : p.shortened.IsProper 100 :=
  ⟨h.minutes_lt, h.seconds_lt, Nat.div_lt_of_lt_mul h.fraction_lt⟩

theorem count_shortened (p : Parts) : p.shortened.count 100 = p.count 1000 / 10 := by
  simp only [count, Parts.shortened]
  omega

/-!
# The text of a time

Minutes and seconds are below sixty and take two digits. The hours take as many as they need.
-/

/-- `cs` shows the hours in at least `width` digits and the fraction in `places` digits. -/
structure IsWritten (width places : Nat) (p : Parts) (cs : List Char) : Prop where
  minutes_lt : p.minutes < 60
  seconds_lt : p.seconds < 60
  exists_numerals : ∃ hours minutes seconds fraction : List Char,
    cs = hours ++ ':' :: (minutes ++ ':' :: (seconds ++ '.' :: fraction)) ∧
      Decimal.IsNumeral width p.hours hours ∧
      (Decimal.IsNumeral 2 p.minutes minutes ∧ minutes.length = 2) ∧
      (Decimal.IsNumeral 2 p.seconds seconds ∧ seconds.length = 2) ∧
      Decimal.IsNumeral places p.fraction fraction ∧ fraction.length = places

def chars (width places : Nat) (p : Parts) : List Char :=
  Decimal.digits width p.hours ++ ':' :: (Decimal.digits 2 p.minutes ++
    ':' :: (Decimal.digits 2 p.seconds ++ '.' :: Decimal.digits places p.fraction))

variable {width places : Nat} {cs : List Char}

theorem isWritten_iff (hwidth : 0 < width) (hplaces : 0 < places) :
    p.IsWritten width places cs ↔ p.IsProper (Nat.pow 10 places) ∧ cs = p.chars width places := by
  have htwo : 0 < 2 := by decide
  have hsixty : 60 ≤ Nat.pow 10 2 := by decide
  constructor
  · rintro ⟨hminutes, hseconds, _, _, _, _, rfl, hhours, ⟨hm, _⟩, ⟨hs, _⟩, hf, hlength⟩
    have hfraction := hf.lt_pow
    rw [hlength] at hfraction
    rw [Decimal.isNumeral_iff hwidth] at hhours
    rw [Decimal.isNumeral_iff htwo] at hm hs
    rw [Decimal.isNumeral_iff hplaces] at hf
    rw [hhours, hm, hs, hf]
    exact ⟨⟨hminutes, hseconds, hfraction⟩, rfl⟩
  · rintro ⟨⟨hminutes, hseconds, hfraction⟩, rfl⟩
    exact ⟨hminutes, hseconds, _, _, _, _, rfl, Decimal.isNumeral_digits hwidth _,
      ⟨Decimal.isNumeral_digits htwo _,
        Decimal.length_digits_of_lt htwo (Nat.lt_of_lt_of_le hminutes hsixty)⟩,
      ⟨Decimal.isNumeral_digits htwo _,
        Decimal.length_digits_of_lt htwo (Nat.lt_of_lt_of_le hseconds hsixty)⟩,
      Decimal.isNumeral_digits hplaces _, Decimal.length_digits_of_lt hplaces hfraction⟩

theorem not_mem_chars {c : Char} (hdigit : c.isDigit = false) (hcolon : c ≠ ':')
    (hpoint : c ≠ '.') (width places : Nat) (p : Parts) : c ∉ p.chars width places := by
  have hdigits (width n : Nat) : c ∉ Decimal.digits width n :=
    Decimal.not_mem_digits hdigit width n
  simp [chars, hdigits, hcolon, hpoint]

end Parts

/-!
# Thousandths and hundredths
-/

theorem chars_magnitudeText (millis : Nat) :
    (magnitudeText millis).toList = (Parts.ofCount 1000 millis).chars 2 3 :=
  toList_magnitudeText millis

theorem isWritten_magnitudeText (millis : Nat) :
    (Parts.ofCount 1000 millis).IsWritten 2 3 (magnitudeText millis).toList := by
  rw [Parts.isWritten_iff (by decide) (by decide)]
  exact ⟨Parts.isProper_ofCount (by decide) millis, chars_magnitudeText millis⟩

end Clock

namespace Script

theorem chars_centisecondsText (cs : Nat) :
    (centisecondsText cs).toList = (Clock.Parts.ofCount 100 cs).chars 1 2 := by
  have hhours : (toString (cs / 360000)).toList = Decimal.digits 1 (cs / 360000) := by
    rw [Decimal.digits_one, Nat.toString_eq_repr, Nat.toList_repr]
  have hparts : Clock.Parts.ofCount 100 cs =
      ⟨cs / 360000, cs / 6000 % 60, cs / 100 % 60, cs % 100⟩ := rfl
  simp only [centisecondsText, String.toList_append, hhours, Decimal.toList_padded, hparts,
    Clock.Parts.chars]
  simp

theorem isWritten_centisecondsText (cs : Nat) :
    (Clock.Parts.ofCount 100 cs).IsWritten 1 2 (centisecondsText cs).toList := by
  rw [Clock.Parts.isWritten_iff (by decide) (by decide)]
  exact ⟨Clock.Parts.isProper_ofCount (by decide) cs, chars_centisecondsText cs⟩

end Script

/-!
# Signed times

The sign stands before the parts of the magnitude, which are those of a natural number also for the
smallest of all times.
-/

namespace Clock

/-- What is shown of a time besides its sign. -/
def shown (millis : Int64) : Parts :=
  Parts.ofCount 1000 millis.toInt.natAbs

theorem neg_iff_toInt_neg {millis : Int64} : millis < 0 ↔ millis.toInt < 0 :=
  Int64.lt_iff_toInt_lt

theorem toList_text (millis : Int64) :
    (text millis).toList =
      (if millis < 0 then ['-'] else []) ++ (magnitudeText millis.toInt.natAbs).toList := by
  rw [text, String.toList_append]
  simp only [← neg_iff_toInt_neg]
  split
  · rfl
  · rfl

theorem toInt_eq_shown (millis : Int64) :
    millis.toInt = (if millis < 0 then -1 else 1) *
      ((shown millis).hours * 3600000 + (shown millis).minutes * 60000 +
        (shown millis).seconds * 1000 + (shown millis).fraction) := by
  have hcount : (shown millis).count 1000 = millis.toInt.natAbs := Parts.count_ofCount 1000 _
  rw [Parts.count] at hcount
  split
  · have hneg := neg_iff_toInt_neg.mp ‹_›
    omega
  · have hpos := neg_iff_toInt_neg.not.mp ‹_›
    omega

theorem minus_mem_text_iff (millis : Int64) : '-' ∈ (text millis).toList ↔ millis < 0 := by
  have hmagnitude : '-' ∉ (magnitudeText millis.toInt.natAbs).toList := by
    rw [chars_magnitudeText]
    exact Parts.not_mem_chars (by decide) (by decide) (by decide) 2 3 _
  rw [toList_text, List.mem_append, iff_false_intro hmagnitude, or_false]
  split
  · rename_i hneg
    exact iff_of_true List.mem_cons_self hneg
  · rename_i hpos
    exact iff_of_false List.not_mem_nil hpos

theorem eq_of_text_eq {millis other : Int64} (h : text other = text millis) : other = millis := by
  have hread := read?_text other
  rw [h, read?_text, Option.some.injEq] at hread
  exact Int64.toInt_inj.mp hread.symm

/-- The text of a time shows its sign and its parts, and it is read as that time again. No other time
has the same text. -/
theorem text_lossless (millis : Int64) :
    (∃ (p : Parts) (cs : List Char),
      (text millis).toList = (if millis < 0 then ['-'] else []) ++ cs ∧ p.IsWritten 2 3 cs ∧
      millis.toInt = (if millis < 0 then -1 else 1) *
        (p.hours * 3600000 + p.minutes * 60000 + p.seconds * 1000 + p.fraction)) ∧
      ('-' ∈ (text millis).toList ↔ millis < 0) ∧
      read? (text millis) = some millis.toInt ∧
      ∀ other, text other = text millis → other = millis :=
  ⟨⟨shown millis, _, toList_text millis, isWritten_magnitudeText _, toInt_eq_shown millis⟩,
    minus_mem_text_iff millis, read?_text millis, fun _ => eq_of_text_eq⟩

end Clock

/-!
# Timecodes

A programme does not show the hours before its start, and frames are shown as the thousandths or the
hundredths that they last.
-/

namespace Timecode

open Clock

section

variable {t : Timecode} {rate : FrameRate}

/-- What is shown of a timecode whose hours are not before the start. -/
def parts (t : Timecode) (rate : FrameRate) : Parts :=
  ⟨t.hours.toNat - 10, t.minutes.toNat, t.seconds.toNat, t.frames.toNat * rate.frameMillis⟩

theorem IsProper.parts (h : t.IsProper rate) : (t.parts rate).IsProper 1000 :=
  ⟨h.minutes_lt, h.seconds_lt, rate.frames_mul_lt h.frames_lt⟩

theorem offset_eq_count (hstart : 10 ≤ t.hours.toNat) :
    t.offset rate = (t.parts rate).count 1000 := by
  simp only [offset, startHour, Parts.count, Timecode.parts, Nat.cast_add, Nat.cast_mul]
  omega

theorem toList_text_millisAt (h : t.IsProper rate) (hstart : 10 ≤ t.hours.toNat) :
    (Clock.text (t.millisAt rate)).toList = (t.parts rate).chars 2 3 := by
  have htime : (t.millisAt rate).toInt = (t.parts rate).count 1000 := by
    rw [toInt_millisAt, offset_eq_count hstart]
  have hsign : ¬ t.millisAt rate < 0 := by
    rw [Int64.lt_iff_toInt_lt, htime]
    exact not_lt.mpr (Int.natCast_nonneg _)
  rw [toList_text, if_neg hsign, htime, Int.natAbs_natCast, List.nil_append, chars_magnitudeText,
    Parts.ofCount_count h.parts]

theorem toList_timeText_millisAt (h : t.IsProper rate) (hstart : 10 ≤ t.hours.toNat) :
    (Script.timeText (t.millisAt rate)).toList = (t.parts rate).shortened.chars 1 2 := by
  have hcount : Script.centiseconds (t.millisAt rate) = (t.parts rate).shortened.count 100 := by
    rw [Script.centiseconds, toInt_millisAt, offset_eq_count hstart, Int.toNat_natCast,
      Parts.count_shortened]
  rw [Script.timeText, hcount, Script.chars_centisecondsText, Parts.ofCount_count h.parts.shortened]

/-- The two texts of a time show the parts of the timecode that it comes from, and no other texts
show them. -/
theorem texts_of_timecode (h : t.IsProper rate) (hstart : 10 ≤ t.hours.toNat) :
    let time := t.millisAt rate
    let millis := t.frames.toNat * (1000 / rate.perSecond.toNat)
    (∀ cs, Parts.IsWritten 2 3
        ⟨t.hours.toNat - 10, t.minutes.toNat, t.seconds.toNat, millis⟩ cs ↔
          cs = (Clock.text time).toList) ∧
      ∀ cs, Parts.IsWritten 1 2
        ⟨t.hours.toNat - 10, t.minutes.toNat, t.seconds.toNat, millis / 10⟩ cs ↔
          cs = (Script.timeText time).toList := by
  intro time millis
  constructor
  · intro cs
    rw [Parts.isWritten_iff (by decide) (by decide), toList_text_millisAt h hstart]
    exact and_iff_right h.parts
  · intro cs
    rw [Parts.isWritten_iff (by decide) (by decide), toList_timeText_millisAt h hstart]
    exact and_iff_right h.parts.shortened

end

/-- The last frame of a minute at a rate that does not divide the second, after a hundred hours. -/
theorem texts_of_late_timecode :
    let t : Timecode := ⟨110, 7, 59, 23⟩
    let film : FrameRate := ⟨24, by decide⟩
    t.IsProper film ∧ 10 ≤ t.hours.toNat ∧
      Parts.IsWritten 2 3 ⟨100, 7, 59, 943⟩ (Clock.text (t.millisAt film)).toList ∧
      Clock.text (t.millisAt film) = "100:07:59.943" ∧
      Parts.IsWritten 1 2 ⟨100, 7, 59, 94⟩ (Script.timeText (t.millisAt film)).toList ∧
      Script.timeText (t.millisAt film) = "100:07:59.94" := by
  intro t film
  have hproper : t.IsProper film := ⟨by decide, by decide, by decide⟩
  have hstart : 10 ≤ t.hours.toNat := by decide
  have hmillis : t.frames.toNat * (1000 / film.perSecond.toNat) = 943 := by decide
  have hparts : t.hours.toNat - 10 = 100 ∧ t.minutes.toNat = 7 ∧ t.seconds.toNat = 59 := by decide
  obtain ⟨hclock, hscript⟩ := texts_of_timecode hproper hstart
  rw [hmillis, hparts.1, hparts.2.1, hparts.2.2] at hclock hscript
  exact ⟨hproper, hstart, (hclock _).mpr rfl, by decide +kernel, (hscript _).mpr rfl,
    by decide +kernel⟩

end Timecode
end SubtitleExchange
