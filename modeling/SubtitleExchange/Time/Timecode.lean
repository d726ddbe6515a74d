/-!
# Timecodes

A timecode counts hours, minutes, seconds and frames of a recording. Programmes start at hour ten,
so a timecode stands for the time since then, which is negative before it.
-/

namespace SubtitleExchange

/-!
# Frame rates

The count of frames in a second. A frame lasts a whole number of milliseconds, and what the
division leaves over is dropped before frames are counted.
-/

structure FrameRate where
  perSecond : UInt32
  pos : 0 < perSecond
deriving DecidableEq

namespace FrameRate

def standard : FrameRate := ⟨25, by decide⟩

def ofUInt32? (n : UInt32) : Option FrameRate :=
  if h : 0 < n then some ⟨n, h⟩ else none

def frameMillis (rate : FrameRate) : Nat :=
  1000 / rate.perSecond.toNat

theorem frameMillis_le (rate : FrameRate) : rate.frameMillis ≤ 1000 :=
  Nat.div_le_self 1000 rate.perSecond.toNat

end FrameRate

structure Timecode where
  hours : UInt8
  minutes : UInt8
  seconds : UInt8
  frames : UInt8
deriving DecidableEq

namespace Timecode

def zero : Timecode := ⟨0, 0, 0, 0⟩

/-- Four bytes are a timecode. What follows them is not looked at. -/
def ofBytes? : List UInt8 → Option Timecode
  | hours :: minutes :: seconds :: frames :: _ => some ⟨hours, minutes, seconds, frames⟩
  | _ => none

def toBytes (t : Timecode) : List UInt8 :=
  [t.hours, t.minutes, t.seconds, t.frames]

theorem ofBytes?_toBytes (t : Timecode) (rest : List UInt8) :
    ofBytes? (t.toBytes ++ rest) = some t :=
  rfl

/-!
# Time since the start of the programme

`offset` is the exact number of milliseconds. It is far from the ends of the 64-bit range, so
`millisAt` is the same number.
-/

def startHour : Int := 10

def offset (t : Timecode) (rate : FrameRate) : Int :=
  ((t.hours.toNat - startHour) * 3600 + t.minutes.toNat * 60 + t.seconds.toNat) * 1000
    + t.frames.toNat * rate.frameMillis

def millisAt (t : Timecode) (rate : FrameRate) : Int64 :=
  Int64.ofInt (t.offset rate)

def millis (t : Timecode) : Int64 :=
  t.millisAt FrameRate.standard

theorem offset_bounds (t : Timecode) (rate : FrameRate) :
    -36000000 ≤ t.offset rate ∧ t.offset rate ≤ 1200000000 := by
  have hh := t.hours.toNat_lt
  have hm := t.minutes.toNat_lt
  have hs := t.seconds.toNat_lt
  have hf := t.frames.toNat_lt
  have hframes : t.frames.toNat * rate.frameMillis ≤ 255 * 1000 :=
    Nat.mul_le_mul (by omega) rate.frameMillis_le
  simp only [offset, startHour]
  omega

theorem toInt_millisAt (t : Timecode) (rate : FrameRate) :
    (t.millisAt rate).toInt = t.offset rate := by
  have h := t.offset_bounds rate
  exact Int64.toInt_ofInt_of_le (by omega) (by omega)

end Timecode
end SubtitleExchange
