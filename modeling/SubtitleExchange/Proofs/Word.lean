import SubtitleExchange.Word

/-!
# Numbers that words hold

A check of a number that a word holds gives the number, and so does a quotient by a positive divisor.
-/

namespace SubtitleExchange
namespace Word

/-- A word of so many bits holds the integer. -/
def Holds (bits : Nat) (z : Int) : Prop :=
  least bits ≤ z ∧ z ≤ greatest bits

instance (bits : Nat) (z : Int) : Decidable (Holds bits z) :=
  inferInstanceAs (Decidable (_ ∧ _))

section

variable {bits : Nat} {z n d : Int}

theorem checked_of_holds (h : Holds bits z) : checked bits z = some z :=
  checked_eq_some h.1 h.2

theorem checked_of_not_holds (h : ¬ Holds bits z) : checked bits z = none :=
  if_neg h

theorem holds_of_checked (h : checked bits n = some z) : Holds bits z := by
  rw [checked] at h
  split at h
  · rename_i hword
    cases h
    exact hword
  · cases h

theorem quotient?_of_holds (hd : 0 < d) (h : Holds bits (n.tdiv d)) :
    quotient? bits n d = some (n.tdiv d) := by
  rw [quotient?, if_pos hd, checked_of_holds h]

theorem remainder?_of_holds (hd : 0 < d) (hquotient : Holds bits (n.tdiv d))
    (h : Holds bits (n.tmod d)) : remainder? bits n d = some (n.tmod d) := by
  rw [remainder?, quotient?_of_holds hd hquotient, Option.bind_some, checked_of_holds h]

/-- A number is held if it is smaller than the least one, both without their signs. -/
theorem holds_of_natAbs_lt (h : z.natAbs < negatives bits) : Holds bits z := by
  rw [Holds, least, greatest]
  omega

end

theorem negatives_pos (bits : Nat) : 0 < negatives bits :=
  Nat.pow_pos (by decide)

theorem holds_toInt (v : Int64) : Holds 64 v.toInt :=
  ⟨v.le_toInt, v.toInt_le⟩

theorem checked_toInt (v : Int64) : checked 64 v.toInt = some v.toInt :=
  checked_of_holds (holds_toInt v)

end Word
end SubtitleExchange
