import SubtitleExchange.Decimal
import SubtitleExchange.Text.Cut
import SubtitleExchange.Time.Timecode

/-!
# Times as text

A count of milliseconds is written as `HH:MM:SS.mmm`, after a minus sign if it is negative; a
timecode is written as its four parts. Hours take as many digits as they need, two at least.
-/

namespace SubtitleExchange

namespace Clock

def magnitudeText (millis : Nat) : String :=
  Decimal.padded 2 (millis / 3600000) ++ ":" ++ Decimal.padded 2 (millis / 60000 % 60) ++ ":"
    ++ Decimal.padded 2 (millis / 1000 % 60) ++ "." ++ Decimal.padded 3 (millis % 1000)

/-- The magnitude is taken in the integers, so the smallest 64-bit number has a text as well. -/
def text (millis : Int64) : String :=
  (if millis.toInt < 0 then "-" else "") ++ magnitudeText millis.toInt.natAbs

/-!
# Reading

Only texts of the written form are read: minutes and seconds are below sixty, and all parts but the
hours have a fixed number of digits.
-/

def readMagnitude? (cs : List Char) : Option Nat := do
  let (hours, cs) ← Cut.first ':' cs
  let (minutes, cs) ← Cut.first ':' cs
  let (seconds, millis) ← Cut.first '.' cs
  let h ← Decimal.value? hours
  let m ← Decimal.value? minutes
  let s ← Decimal.value? seconds
  let f ← Decimal.value? millis
  if 2 ≤ hours.length ∧ minutes.length = 2 ∧ m < 60 ∧ seconds.length = 2 ∧ s < 60
      ∧ millis.length = 3 then
    return h * 3600000 + m * 60000 + s * 1000 + f
  else
    none

def read? (text : String) : Option Int :=
  match text.toList with
  | '-' :: rest => (readMagnitude? rest).map fun n => -(n : Int)
  | cs => (readMagnitude? cs).map fun n => (n : Int)

end Clock

def Timecode.text (t : Timecode) : String :=
  ":".intercalate
    ([t.hours, t.minutes, t.seconds, t.frames].map fun b => Decimal.padded 2 b.toNat)

end SubtitleExchange
