/-!
# Byte strings of a fixed length

The layout of a subtitle file fixes the length of a block and of its text field. `Octets n` is a
byte list that is known to have length `n`, and `Octets.pieces` cuts a longer list into as many of
them as it holds.
-/

namespace SubtitleExchange

@[ext]
structure Octets (n : Nat) where
  bytes : List UInt8
  length_eq : bytes.length = n
deriving DecidableEq

namespace Octets

def replicate (n : Nat) (b : UInt8) : Octets n where
  bytes := List.replicate n b
  length_eq := List.length_replicate

/-- The list itself, if it has exactly `n` bytes. -/
def ofList? (n : Nat) (bs : List UInt8) : Option (Octets n) :=
  if h : bs.length = n then some ⟨bs, h⟩ else none

theorem length_of_ofList? {n : Nat} {bs : List UInt8} {o : Octets n} (h : ofList? n bs = some o) :
    bs.length = n := by
  unfold ofList? at h
  split at h
  · assumption
  · contradiction

theorem ofList?_bytes {n : Nat} (o : Octets n) : ofList? n o.bytes = some o := by
  simp [ofList?, o.length_eq]

/-!
# Complete pieces

A list is cut from its front. What is left at the end is shorter than a piece and is dropped.
-/

def pieces (n : Nat) (bs : List UInt8) : List (Octets n) :=
  if h : 0 < n ∧ (bs.take n).length = n then
    ⟨bs.take n, h.2⟩ :: pieces n (bs.drop n)
  else
    []
termination_by bs.length
decreasing_by
  simp only [List.length_take] at h
  simp only [List.length_drop]
  omega

theorem pieces_of_lt {n : Nat} {bs : List UInt8} (h : bs.length < n) : pieces n bs = [] := by
  rw [pieces, dif_neg]
  simp only [List.length_take]
  omega

theorem pieces_append {n : Nat} (hn : 0 < n) (o : Octets n) (rest : List UInt8) :
    pieces n (o.bytes ++ rest) = o :: pieces n rest := by
  have htake : (o.bytes ++ rest).take n = o.bytes := by
    simp [← o.length_eq]
  have hdrop : (o.bytes ++ rest).drop n = rest := by
    simp [← o.length_eq]
  rw [pieces, dif_pos ⟨hn, by rw [htake, o.length_eq]⟩, hdrop]
  congr 1
  exact Octets.ext htake

end Octets
end SubtitleExchange
