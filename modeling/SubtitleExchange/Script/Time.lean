import SubtitleExchange.Decimal
import SubtitleExchange.Text.Cut

/-!
# Times in a script

A script counts hundredths of a second, written `H:MM:SS.cc`. Thousandths are dropped. A script has
no time before zero, so earlier times become zero.
-/

namespace SubtitleExchange
namespace Script

def centiseconds (millis : Int64) : Nat :=
  millis.toInt.toNat / 10

def centisecondsText (cs : Nat) : String :=
  toString (cs / 360000) ++ ":" ++ Decimal.padded 2 (cs / 6000 % 60) ++ ":"
    ++ Decimal.padded 2 (cs / 100 % 60) ++ "." ++ Decimal.padded 2 (cs % 100)

def timeText (millis : Int64) : String :=
  centisecondsText (centiseconds millis)

/-- The hundredths of a second that a time stands for, if it has the written form. -/
def readTime? (cs : List Char) : Option Nat := do
  let (hours, cs) ← Cut.first ':' cs
  let (minutes, cs) ← Cut.first ':' cs
  let (seconds, hundredths) ← Cut.first '.' cs
  let h ← Decimal.value? hours
  let m ← Decimal.value? minutes
  let s ← Decimal.value? seconds
  let c ← Decimal.value? hundredths
  if minutes.length = 2 ∧ m < 60 ∧ seconds.length = 2 ∧ s < 60 ∧ hundredths.length = 2 then
    return h * 360000 + m * 6000 + s * 100 + c
  else
    none

end Script
end SubtitleExchange
