import Mathlib.Data.List.Forall2
import Mathlib.Tactic.Positivity
import Mathlib.Tactic.Ring
import Mathlib.Tactic.Tauto
import SubtitleExchange.Proofs.Word
import SubtitleExchange.Time.Timecode

/-!
# Times of timecodes

A time counts the parts of a timecode in places of different sizes. The frames never fill the last
place, so times follow each other as their timecodes do. A frame that lasts less than a millisecond
leaves no trace in the time.
-/

namespace SubtitleExchange

/-!
# Numbers in places

Each place has a size, and the digit in it is smaller.
-/

namespace Places

/-- The number whose digits stand behind `high`. -/
def value : List Nat → List Nat → Nat → Nat
  | size :: sizes, digit :: digits, high => value sizes digits (high * size + digit)
  | _, _, high => high

theorem mul_add_lt_iff {size d e : Nat} (hd : d < size) (he : e < size) (a b : Nat) :
    a * size + d < b * size + e ↔ a < b ∨ a = b ∧ d < e := by
  rcases Nat.lt_trichotomy a b with hlt | rfl | hgt
  · have hplace := Nat.mul_le_mul_right size (Nat.succ_le_of_lt hlt)
    rw [Nat.succ_mul] at hplace
    omega
  · omega
  · have hplace := Nat.mul_le_mul_right size (Nat.succ_le_of_lt hgt)
    rw [Nat.succ_mul] at hplace
    omega

theorem mul_add_eq_iff {size d e : Nat} (hd : d < size) (he : e < size) (a b : Nat) :
    a * size + d = b * size + e ↔ a = b ∧ d = e := by
  have hlt := mul_add_lt_iff hd he a b
  have hgt := mul_add_lt_iff he hd b a
  omega

/-- Numbers are in the order of their digits, the first ones first. -/
theorem value_lt_iff {sizes ds es : List Nat} (hds : List.Forall₂ (· < ·) ds sizes)
    (hes : List.Forall₂ (· < ·) es sizes) (a b : Nat) :
    value sizes ds a < value sizes es b ↔ a :: ds < b :: es := by
  induction hds generalizing es a b with
  | nil =>
      cases hes
      simp [value, List.cons_lt_cons_iff]
  | @cons d size ds sizes hd _ ih =>
      cases hes with
      | @cons e _ es _ he hes =>
          rw [value, value, ih hes, List.cons_lt_cons_iff, List.cons_lt_cons_iff,
            List.cons_lt_cons_iff, mul_add_lt_iff hd he, mul_add_eq_iff hd he]
          tauto

end Places

namespace FrameRate

theorem frames_mul_lt (rate : FrameRate) {frames : Nat} (h : frames < rate.perSecond.toNat) :
    frames * rate.frameMillis < 1000 := by
  have hsecond : rate.perSecond.toNat * rate.frameMillis ≤ 1000 := Nat.mul_div_le 1000 _
  rcases Nat.eq_zero_or_pos rate.frameMillis with hzero | hpos
  · rw [hzero, Nat.mul_zero]
    decide
  · exact Nat.lt_of_lt_of_le (Nat.mul_lt_mul_of_pos_right h hpos) hsecond

theorem frameMillis_pos {rate : FrameRate} (h : rate.perSecond ≤ 1000) : 0 < rate.frameMillis :=
  Nat.div_pos (UInt32.le_iff_toNat_le.mp h) (UInt32.lt_iff_toNat_lt.mp rate.pos)

end FrameRate

namespace Timecode

/-!
# The order of times
-/

/-- The parts of a timecode are in the ranges of a clock, and the frames are those of one second. -/
structure IsProper (t : Timecode) (rate : FrameRate) : Prop where
  minutes_lt : t.minutes.toNat < 60
  seconds_lt : t.seconds.toNat < 60
  frames_lt : t.frames.toNat < rate.perSecond.toNat

def sizes : List Nat := [60, 60, 1000]

/-- What a timecode counts below its hours. -/
def digits (t : Timecode) (rate : FrameRate) : List Nat :=
  [t.minutes.toNat, t.seconds.toNat, t.frames.toNat * rate.frameMillis]

theorem offset_eq_value (t : Timecode) (rate : FrameRate) :
    t.offset rate =
      Places.value sizes (t.digits rate) t.hours.toNat - startHour * 3600 * 1000 := by
  simp only [offset, sizes, digits, Places.value, Nat.cast_add, Nat.cast_mul]
  push_cast
  ring

section

variable {t u : Timecode} {rate : FrameRate}

theorem IsProper.forall₂ (h : t.IsProper rate) :
    List.Forall₂ (· < ·) (t.digits rate) sizes :=
  .cons h.minutes_lt (.cons h.seconds_lt (.cons (rate.frames_mul_lt h.frames_lt) .nil))

theorem offset_lt_iff (ht : t.IsProper rate) (hu : u.IsProper rate) :
    t.offset rate < u.offset rate ↔
      t.hours.toNat :: t.digits rate < u.hours.toNat :: u.digits rate := by
  rw [← Places.value_lt_iff ht.forall₂ hu.forall₂, offset_eq_value, offset_eq_value]
  omega

theorem toBytes_lt_of_offset_lt (ht : t.IsProper rate) (hu : u.IsProper rate)
    (h : t.offset rate < u.offset rate) : t.toBytes < u.toBytes := by
  rw [offset_lt_iff ht hu] at h
  simp only [digits, toBytes, List.cons_lt_cons_iff, List.not_lt_nil, UInt8.lt_iff_toNat_lt,
    ← UInt8.toNat_inj, and_false, or_false] at h ⊢
  -- Hours, minutes and seconds are digits as they are, and frames are multiplied by their length.
  refine h.imp_right (And.imp_right (Or.imp_right (And.imp_right (Or.imp_right
    (And.imp_right ?_)))))
  intro hframes
  exact Nat.lt_of_mul_lt_mul_right hframes

theorem toBytes_lt_iff (ht : t.IsProper rate) (hu : u.IsProper rate)
    (hrate : rate.perSecond ≤ 1000) : t.toBytes < u.toBytes ↔ t.offset rate < u.offset rate := by
  rw [offset_lt_iff ht hu]
  simp only [digits, toBytes, List.cons_lt_cons_iff, List.not_lt_nil, UInt8.lt_iff_toNat_lt,
    ← UInt8.toNat_inj, Nat.mul_lt_mul_right (FrameRate.frameMillis_pos hrate), and_false, or_false]

theorem millisAt_lt_iff : t.millisAt rate < u.millisAt rate ↔ t.offset rate < u.offset rate := by
  rw [Int64.lt_iff_toInt_lt, toInt_millisAt, toInt_millisAt]

theorem millisAt_le_iff : t.millisAt rate ≤ u.millisAt rate ↔ t.offset rate ≤ u.offset rate := by
  rw [Int64.le_iff_toInt_le, toInt_millisAt, toInt_millisAt]

theorem toBytes_inj : t.toBytes = u.toBytes ↔ t = u := by
  constructor
  · intro h
    have hread := congrArg ofBytes? h
    exact Option.some.inj hread
  · intro h
    rw [h]

end

/-!
# Times in machine words
-/

/-- The time of a timecode, if every number on the way to it is held in a word of 64 bits. -/
def millisInWords? (t : Timecode) (rate : FrameRate) : Option Int := do
  let hours ← Word.checked 64 (t.hours.toNat - startHour)
  let hourSeconds ← Word.checked 64 (hours * 3600)
  let minuteSeconds ← Word.checked 64 (t.minutes.toNat * 60)
  let wholeMinutes ← Word.checked 64 (hourSeconds + minuteSeconds)
  let seconds ← Word.checked 64 (wholeMinutes + t.seconds.toNat)
  let frameMillis ← Word.quotient? 64 1000 rate.perSecond.toNat
  let wholeSeconds ← Word.checked 64 (seconds * 1000)
  let rest ← Word.checked 64 (t.frames.toNat * frameMillis)
  Word.checked 64 (wholeSeconds + rest)

theorem millisInWords?_eq (t : Timecode) (rate : FrameRate) :
    t.millisInWords? rate = some (t.offset rate) := by
  have hword (z : Int) (hlower : -2 ^ 62 ≤ z) (hupper : z ≤ 2 ^ 62) :
      Word.checked 64 z = some z := by
    have hnegatives : Word.negatives 64 = 2 ^ 63 := by decide
    exact Word.checked_of_holds (Word.holds_of_natAbs_lt (by omega))
  have hrate : 0 < (rate.perSecond.toNat : Int) := by
    exact_mod_cast UInt32.lt_iff_toNat_lt.mp rate.pos
  have hmillis := rate.frameMillis_le
  have hquotient : Word.quotient? 64 1000 rate.perSecond.toNat = some (rate.frameMillis : Int) := by
    rw [Word.quotient?, if_pos hrate]
    exact hword rate.frameMillis (by omega) (by omega)
  have hh := t.hours.toNat_lt
  have hm := t.minutes.toNat_lt
  have hs := t.seconds.toNat_lt
  have hf : t.frames.toNat * rate.frameMillis ≤ 255 * 1000 :=
    Nat.mul_le_mul (Nat.le_of_lt_succ t.frames.toNat_lt) hmillis
  have hframes : (t.frames.toNat : Int) * rate.frameMillis ≤ 255 * 1000 := by exact_mod_cast hf
  have hzero : 0 ≤ (t.frames.toNat : Int) * rate.frameMillis := by positivity
  simp (disch := omega) only [millisInWords?, startHour, hword, hquotient, Option.bind_eq_bind,
    Option.bind_some]
  simp only [offset, startHour]

end Timecode
end SubtitleExchange
