import SubtitleExchange.Octets

/-!
# Pieces of a byte string

Cutting a byte string into pieces of length `n` gives the bytes at every multiple of `n`, as long as
a whole piece stands there.
-/

namespace SubtitleExchange
namespace Octets

theorem pieces_of_le {n : Nat} (hn : 0 < n) {bs : List UInt8} (h : n ≤ bs.length) :
    ∃ piece : Octets n, piece.bytes = bs.take n ∧ pieces n bs = piece :: pieces n (bs.drop n) := by
  have hlength : (bs.take n).length = n := List.length_take_of_le h
  refine ⟨⟨bs.take n, hlength⟩, rfl, ?_⟩
  rw [pieces, dif_pos ⟨hn, hlength⟩]

theorem pieces_bytes {n : Nat} (hn : 0 < n) (o : Octets n) : pieces n o.bytes = [o] := by
  have hnone : pieces n [] = [] := pieces_of_lt hn
  have hpieces := pieces_append hn o []
  rwa [List.append_nil, hnone] at hpieces

theorem length_pieces {n : Nat} (hn : 0 < n) (bs : List UInt8) :
    (pieces n bs).length = bs.length / n := by
  induction hlength : bs.length using Nat.strongRecOn generalizing bs with
  | ind size ih =>
      rcases Nat.lt_or_ge bs.length n with hlt | hge
      · rw [pieces_of_lt hlt, ← hlength, Nat.div_eq_of_lt hlt]
        rfl
      · obtain ⟨piece, _, hpieces⟩ := pieces_of_le hn hge
        have hrest := ih (bs.drop n).length (by rw [List.length_drop]; omega) (bs.drop n) rfl
        rw [hpieces, List.length_cons, hrest, List.length_drop, ← hlength,
          Nat.div_eq_sub_div hn hge]

theorem getElem?_pieces {n : Nat} (hn : 0 < n) (bs : List UInt8) (k : Nat) :
    ((pieces n bs)[k]?).map bytes =
      if n * (k + 1) ≤ bs.length then some ((bs.drop (n * k)).take n) else none := by
  induction k generalizing bs with
  | zero =>
      rw [Nat.zero_add, Nat.mul_one, Nat.mul_zero, List.drop_zero]
      rcases Nat.lt_or_ge bs.length n with hlt | hge
      · rw [pieces_of_lt hlt, if_neg (by omega)]
        rfl
      · obtain ⟨piece, hbytes, hpieces⟩ := pieces_of_le hn hge
        rw [hpieces, if_pos hge, List.getElem?_cons_zero, Option.map_some, hbytes]
  | succ k ih =>
      have hstep : n * (k + 1 + 1) = n * (k + 1) + n := Nat.mul_succ n (k + 1)
      rcases Nat.lt_or_ge bs.length n with hlt | hge
      · rw [pieces_of_lt hlt, if_neg (by omega)]
        rfl
      · obtain ⟨piece, _, hpieces⟩ := pieces_of_le hn hge
        have hiff : n * (k + 1) ≤ (bs.drop n).length ↔ n * (k + 1 + 1) ≤ bs.length := by
          rw [List.length_drop]
          omega
        rw [hpieces, List.getElem?_cons_succ, ih, List.drop_drop, Nat.add_comm n (n * k),
          ← Nat.mul_succ]
        simp only [hiff]

theorem map_bytes_pieces {n : Nat} (hn : 0 < n) (bs : List UInt8) :
    (pieces n bs).map bytes =
      (List.range (bs.length / n)).map fun k => (bs.drop (n * k)).take n := by
  apply List.ext_getElem?
  intro k
  rw [List.getElem?_map, getElem?_pieces hn, List.getElem?_map]
  have hiff : n * (k + 1) ≤ bs.length ↔ k < bs.length / n := by
    rw [Nat.mul_comm]
    exact (Nat.le_div_iff_mul_le hn).symm
  by_cases hk : k < bs.length / n
  · rw [if_pos (hiff.mpr hk), List.getElem?_range hk]
    rfl
  · rw [if_neg ((not_congr hiff).mpr hk), List.getElem?_eq_none (by rw [List.length_range]; omega)]
    rfl

/-- Joined again, the pieces are all of the string but what is left at its end. -/
theorem flatMap_bytes_pieces {n : Nat} (hn : 0 < n) (bs : List UInt8) :
    (pieces n bs).flatMap bytes = bs.take (n * (bs.length / n)) := by
  induction hlength : bs.length using Nat.strongRecOn generalizing bs with
  | ind size ih =>
      rcases Nat.lt_or_ge bs.length n with hlt | hge
      · rw [pieces_of_lt hlt, ← hlength, Nat.div_eq_of_lt hlt]
        rfl
      · obtain ⟨piece, hbytes, hpieces⟩ := pieces_of_le hn hge
        have hrest := ih (bs.drop n).length (by rw [List.length_drop]; omega) (bs.drop n) rfl
        have hcount : n * (size / n) = n + n * ((bs.drop n).length / n) := by
          rw [List.length_drop, ← hlength, Nat.div_eq_sub_div hn hge, Nat.mul_succ, Nat.add_comm]
        rw [hpieces, List.flatMap_cons, hbytes, hrest, hcount, List.take_add]

/-!
# Pieces of joined strings

A string of complete pieces leaves nothing over, so cutting goes on behind it as if it began there.
-/

theorem pieces_append_of_dvd {n : Nat} (hn : 0 < n) {front : List UInt8} (hfront : n ∣ front.length)
    (rest : List UInt8) : pieces n (front ++ rest) = pieces n front ++ pieces n rest := by
  induction hlength : front.length using Nat.strongRecOn generalizing front with
  | ind size ih =>
      rcases Nat.lt_or_ge front.length n with hlt | hge
      · have hnil : front = [] :=
          List.length_eq_zero_iff.mp (Nat.eq_zero_of_dvd_of_lt hfront hlt)
        rw [hnil, pieces_of_lt (show ([] : List UInt8).length < n from hn), List.nil_append,
          List.nil_append]
      · obtain ⟨piece, hpiece, hpieces⟩ := pieces_of_le hn hge
        have hdvd : n ∣ (front.drop n).length := by
          rw [List.length_drop]
          exact Nat.dvd_sub hfront (Nat.dvd_refl n)
        have hshorter : (front.drop n).length < size := by
          rw [List.length_drop]
          omega
        have hsplit : front ++ rest = piece.bytes ++ (front.drop n ++ rest) := by
          rw [hpiece, ← List.append_assoc, List.take_append_drop]
        rw [hsplit, pieces_append hn, ih _ hshorter hdvd rfl, hpieces, List.cons_append]

theorem pieces_take {n k : Nat} (hn : 0 < n) {bs : List UInt8} (hk : n * k ≤ bs.length) :
    pieces n (bs.take (n * k)) = (pieces n bs).take k := by
  have hlength : (bs.take (n * k)).length = n * k := List.length_take_of_le hk
  have hdvd : n ∣ (bs.take (n * k)).length := by
    rw [hlength]
    exact Nat.dvd_mul_right n k
  have hcount : (pieces n (bs.take (n * k))).length = k := by
    rw [length_pieces hn, hlength, Nat.mul_div_cancel_left k hn]
  have hsplit := pieces_append_of_dvd hn hdvd (bs.drop (n * k))
  rw [List.take_append_drop] at hsplit
  rw [hsplit, List.take_left' hcount]

theorem pieces_flatten {n : Nat} (hn : 0 < n) (units : List (List UInt8))
    (hunits : ∀ unit ∈ units.dropLast, n ∣ unit.length) :
    pieces n units.flatten = units.flatMap (pieces n) := by
  induction units with
  | nil =>
      exact pieces_of_lt hn
  | cons unit rest ih =>
      cases rest with
      | nil =>
          simp
      | cons next others =>
          rw [List.dropLast_cons_cons] at hunits
          have hunit := hunits unit List.mem_cons_self
          have hrest := ih fun other hother => hunits other (List.mem_cons_of_mem unit hother)
          rw [List.flatten_cons, pieces_append_of_dvd hn hunit, hrest]
          exact List.flatMap_cons.symm

theorem pieces_take_complete {n : Nat} (hn : 0 < n) (bs : List UInt8) :
    pieces n (bs.take (bs.length - bs.length % n)) = pieces n bs := by
  let count := bs.length - bs.length % n
  have hcount : n ∣ (bs.take count).length := by
    rw [List.length_take_of_le (Nat.sub_le _ _)]
    exact Nat.dvd_sub_mod bs.length
  have hrest : (bs.drop count).length < n := by
    have hmod := Nat.mod_lt bs.length hn
    have hle := Nat.mod_le bs.length n
    rw [List.length_drop]
    omega
  have hsplit := pieces_append_of_dvd hn hcount (bs.drop count)
  rw [List.take_append_drop, pieces_of_lt hrest, List.append_nil] at hsplit
  exact hsplit.symm

end Octets
end SubtitleExchange
