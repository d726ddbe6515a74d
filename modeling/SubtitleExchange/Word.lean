/-!
# Signed machine words

Numbers are held in signed words of a fixed count of bits. `Word.checked` keeps an integer only if
such a word holds it, and `Word.quotient?` divides only by a positive divisor.
-/

namespace SubtitleExchange
namespace Word

/-- How many words of so many bits are negative. -/
def negatives (bits : Nat) : Nat := Nat.pow 2 (bits - 1)

def least (bits : Nat) : Int := -negatives bits

def greatest (bits : Nat) : Int := negatives bits - 1

def checked (bits : Nat) (z : Int) : Option Int :=
  if least bits ≤ z ∧ z ≤ greatest bits then some z else none

def quotient? (bits : Nat) (a b : Int) : Option Int :=
  if 0 < b then checked bits (a.tdiv b) else none

/-- The remainder has the sign of the dividend. It is refused whenever the quotient is. -/
def remainder? (bits : Nat) (a b : Int) : Option Int :=
  (quotient? bits a b).bind fun _ => checked bits (a.tmod b)

theorem checked_eq_some {bits : Nat} {z : Int} (hleast : least bits ≤ z)
    (hgreatest : z ≤ greatest bits) : checked bits z = some z :=
  if_pos ⟨hleast, hgreatest⟩

theorem checked_eq_none_iff {bits : Nat} {z : Int} :
    checked bits z = none ↔ z < least bits ∨ greatest bits < z := by
  unfold checked
  split
  · simp only [reduceCtorEq, false_iff]
    omega
  · simp only [true_iff]
    omega

end Word
end SubtitleExchange
