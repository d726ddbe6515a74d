import SubtitleExchange.Time.Rounding
import SubtitleExchange.Word

/-!
# Time bases

A time base is the length of a tick as a fraction of a second. `rescale` converts a count of ticks
from one base to another: the result is the nearest count, halves away from zero, limited to 64 bits.

The product of value, numerator and denominator is formed in one word of 128 bits. When it does not
fit, the result is the 64-bit number farthest from zero on the side of the exact quotient.
-/

namespace SubtitleExchange

structure TimeBase where
  num : Int64
  den : Int64
deriving DecidableEq

namespace TimeBase

/-- One tick in a millisecond. -/
def milliseconds : TimeBase := ⟨1, 1000⟩

/-- A base can be used when neither part of the fraction is zero. The sign is free. -/
def isValid (b : TimeBase) : Bool :=
  b.num != 0 && b.den != 0

/-- The 64-bit number farthest from zero on one side. -/
def extreme (negative : Bool) : Int64 :=
  if negative then Int64.minValue else Int64.maxValue

/-- Rounds a quotient whose divisor may be negative. Both parts then change sign. A dividend whose
negation does not fit the word stands for a number above every 64-bit number. -/
def divide (numerator denominator : Int) : Int64 :=
  if denominator < 0 then
    match Word.checked 128 (-numerator) with
    | some n => saturate (roundByRemainder n (-denominator))
    | none => Int64.maxValue
  else
    saturate (roundByRemainder numerator denominator)

def rescale (source : TimeBase) (value : Int64) (target : TimeBase) : Int64 :=
  if source.isValid && target.isValid then
    let denominator := source.den.toInt * target.num.toInt
    let product := value.toInt * source.num.toInt * target.den.toInt
    match Word.checked 128 product with
    | some numerator => divide numerator denominator
    | none => extreme (decide (product < 0) ^^ decide (denominator < 0))
  else
    0

theorem rescale_of_invalid {source target : TimeBase} (value : Int64)
    (h : (source.isValid && target.isValid) = false) : source.rescale value target = 0 := by
  simp [rescale, h]

/-!
# The same conversion in words

Every result on the way is held in a word of 128 bits and every divisor is positive, or there is no
result. Only the product of three numbers and the change of sign may fail to fit without harm.
-/

def roundInWords? (n d : Int) : Option Int := do
  let half ← Word.quotient? 128 d 2
  let threshold ← Word.checked 128 (d - half)
  let quotient ← Word.quotient? 128 n d
  let remainder ← Word.remainder? 128 n d
  if 0 ≤ n then
    Word.checked 128 (quotient + if threshold ≤ remainder then 1 else 0)
  else
    let opposite ← Word.checked 128 (-remainder)
    Word.checked 128 (quotient - if threshold ≤ opposite then 1 else 0)

def divideInWords? (numerator denominator : Int) : Option Int64 :=
  if denominator < 0 then
    match Word.checked 128 (-numerator) with
    | some n => do
        let d ← Word.checked 128 (-denominator)
        let rounded ← roundInWords? n d
        return saturate rounded
    | none => some Int64.maxValue
  else do
    let rounded ← roundInWords? numerator denominator
    return saturate rounded

def rescaleInWords? (source : TimeBase) (value : Int64) (target : TimeBase) : Option Int64 :=
  if source.isValid && target.isValid then do
    let denominator ← Word.checked 128 (source.den.toInt * target.num.toInt)
    let scaled ← Word.checked 128 (value.toInt * source.num.toInt)
    match Word.checked 128 (scaled * target.den.toInt) with
    | some numerator => divideInWords? numerator denominator
    | none =>
        return extreme (decide (value < 0) ^^ decide (source.num < 0) ^^ decide (target.den < 0)
          ^^ decide (denominator < 0))
  else
    some 0

/-!
# The exact conversion

The count of target ticks as it would be without limits on words.
-/

def exactCount (source : TimeBase) (value : Int64) (target : TimeBase) : Int :=
  roundHalfAway (value.toInt * source.num.toInt * target.den.toInt)
    (source.den.toInt * target.num.toInt)

end TimeBase
end SubtitleExchange
