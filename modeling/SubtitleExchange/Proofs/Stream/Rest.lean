import SubtitleExchange.Proofs.Stream.Filling

/-!
# What a filling leaves

A filling takes bytes from the front of a source, and what it leaves depends on their number alone.
So two fillings one after the other leave what one filling leaves that asks for as many bytes as
both.
-/

namespace SubtitleExchange

namespace Delivery

/-- The deliveries behind the first `n` bytes. What ends the bytes before that is left out, too. -/
def behind : Nat → List Delivery → List Delivery
  | 0, deliveries => deliveries
  | _ + 1, [] => []
  | n + 1, chunk bytes :: rest =>
      if bytes.isEmpty then rest
      else if bytes.length ≤ n + 1 then behind (n + 1 - bytes.length) rest
      else chunk (bytes.drop (n + 1)) :: rest
  | n + 1, fault cause :: rest =>
      if cause.kind = .interrupted then behind (n + 1) rest else rest

theorem behind_zero (deliveries : List Delivery) : behind 0 deliveries = deliveries := by
  cases deliveries with
  | nil =>
      rfl
  | cons head rest =>
      rfl

theorem behind_nil (n : Nat) : behind n [] = [] := by
  cases n with
  | zero =>
      rfl
  | succ n =>
      rfl

theorem behind_chunk_of_le {n : Nat} {bytes : List UInt8} (hbytes : bytes ≠ [])
    (hn : bytes.length ≤ n) (rest : List Delivery) :
    behind n (chunk bytes :: rest) = behind (n - bytes.length) rest := by
  cases n with
  | zero =>
      exact absurd (List.length_eq_zero_iff.mp (Nat.le_zero.mp hn)) hbytes
  | succ n =>
      rw [behind, if_neg (by simpa using hbytes), if_pos hn]

theorem behind_chunk_of_lt {n : Nat} {bytes : List UInt8} (hn : n < bytes.length)
    (rest : List Delivery) :
    behind n (chunk bytes :: rest) = chunk (bytes.drop n) :: rest := by
  cases n with
  | zero =>
      rfl
  | succ n =>
      have hbytes : bytes ≠ [] := List.ne_nil_of_length_pos (Nat.zero_lt_of_lt hn)
      rw [behind, if_neg (by simpa using hbytes), if_neg (Nat.not_le.mpr hn)]

theorem behind_empty {n : Nat} (hn : n ≠ 0) (rest : List Delivery) :
    behind n (chunk [] :: rest) = rest := by
  cases n with
  | zero =>
      exact absurd rfl hn
  | succ n =>
      rfl

theorem behind_interruption {n : Nat} (hn : n ≠ 0) {cause : Fault}
    (hkind : cause.kind = .interrupted) (rest : List Delivery) :
    behind n (fault cause :: rest) = behind n rest := by
  cases n with
  | zero =>
      exact absurd rfl hn
  | succ n =>
      rw [behind, if_pos hkind]

theorem behind_failure {n : Nat} (hn : n ≠ 0) {cause : Fault} (hkind : cause.kind ≠ .interrupted)
    (rest : List Delivery) : behind n (fault cause :: rest) = rest := by
  cases n with
  | zero =>
      exact absurd rfl hn
  | succ n =>
      rw [behind, if_neg hkind]

/-- Bytes from the front of a chunk may be taken in two parts. -/
theorem behind_add_chunk {m : Nat} {bytes : List UInt8} (hm : m < bytes.length) (n : Nat)
    (rest : List Delivery) :
    behind (m + n) (chunk bytes :: rest) = behind n (chunk (bytes.drop m) :: rest) := by
  have hdrop : (bytes.drop m).length = bytes.length - m := List.length_drop
  rcases Nat.lt_or_ge (m + n) bytes.length with hinside | hbeyond
  · rw [behind_chunk_of_lt hinside, behind_chunk_of_lt (by omega), List.drop_drop]
  · have hbytes : bytes ≠ [] := List.ne_nil_of_length_pos (Nat.zero_lt_of_lt hm)
    have hrest : bytes.drop m ≠ [] := List.ne_nil_of_length_pos (by omega)
    have hcount : m + n - bytes.length = n - (bytes.drop m).length := by
      omega
    rw [behind_chunk_of_le hbytes hbeyond, behind_chunk_of_le hrest (by omega), hcount]

theorem behind_add (m n : Nat) (deliveries : List Delivery) :
    behind (m + n) deliveries =
      if m ≤ (delivered deliveries).length then behind n (behind m deliveries)
      else behind m deliveries := by
  induction deliveries generalizing m with
  | nil =>
      simp only [behind_nil, ite_self]
  | cons head rest ih =>
      by_cases hm : m = 0
      · rw [hm, Nat.zero_add, behind_zero, if_pos (Nat.zero_le _)]
      · have hmn : m + n ≠ 0 := by
          omega
        cases head with
        | chunk bytes =>
            by_cases hbytes : bytes = []
            · rw [hbytes, behind_empty hmn, behind_empty hm, if_neg]
              simpa [delivered] using hm
            · rw [delivered_chunk bytes hbytes, List.length_append]
              rcases Nat.lt_or_ge m bytes.length with hlt | hge
              · rw [if_pos (by omega), behind_chunk_of_lt hlt, behind_add_chunk hlt]
              · have hiff : m - bytes.length ≤ (delivered rest).length ↔
                    m ≤ bytes.length + (delivered rest).length := by
                  omega
                rw [behind_chunk_of_le hbytes hge, behind_chunk_of_le hbytes (by omega),
                  Nat.sub_add_comm hge, ih]
                simp only [hiff]
        | fault cause =>
            by_cases hkind : cause.kind = .interrupted
            · rw [behind_interruption hmn hkind, behind_interruption hm hkind, ih, delivered,
                if_pos hkind]
            · rw [behind_failure hmn hkind, behind_failure hm hkind, delivered, if_neg hkind,
                if_neg]
              simpa using hm

end Delivery

namespace Source

/-- The source behind its first `n` bytes. -/
def behind (n : Nat) : Source → Source
  | memory data position => memory data (position + min n (data.size - position))
  | feed deliveries seekFault => feed (Delivery.behind n deliveries) seekFault
  | directory => directory

theorem behind_zero (s : Source) : s.behind 0 = s := by
  cases s with
  | memory data position =>
      rw [behind, Nat.zero_min, Nat.add_zero]
  | feed deliveries seekFault =>
      rw [behind, Delivery.behind_zero]
  | directory =>
      rfl

theorem length_delivered_memory (data : Array UInt8) (position : Nat) :
    (memory data position).delivered.length = data.size - position := by
  rw [delivered, List.length_drop, Array.length_toList]

theorem behind_add (m n : Nat) (s : Source) :
    s.behind (m + n) =
      if m ≤ s.delivered.length then (s.behind m).behind n else s.behind m := by
  cases s with
  | memory data position =>
      rw [length_delivered_memory]
      split
      · rw [behind, behind, behind, memory.injEq]
        exact ⟨rfl, by omega⟩
      · rw [behind, behind, memory.injEq]
        exact ⟨rfl, by omega⟩
  | feed deliveries seekFault =>
      rw [behind, Delivery.behind_add, delivered]
      split
      · rfl
      · rfl
  | directory =>
      rw [behind, behind, behind, ite_self]

/-!
# The source of a filling
-/

theorem length_memory_read {n position : Nat} {data : Array UInt8} {rest : Source}
    {bytes : List UInt8} (h : (memory data position).read n = (.ok bytes, rest)) :
    bytes.length = min n (data.size - position) ∧ rest = memory data (position + bytes.length) := by
  obtain ⟨hbytes, _, hrest⟩ := delivered_memory_read h
  refine ⟨?_, hrest⟩
  rw [hbytes, List.length_take, List.length_drop, Array.length_toList]

theorem behind_of_read_nothing {n : Nat} {s rest : Source} (hn : n ≠ 0)
    (h : s.read n = (.ok [], rest)) : s.behind n = rest := by
  cases s with
  | memory data position =>
      obtain ⟨hlength, rfl⟩ := length_memory_read h
      rw [behind, ← hlength]
  | feed deliveries seekFault =>
      obtain ⟨left, rfl, hanswer⟩ := answer_of_feed_read h
      rcases Delivery.answer_ok hanswer with
        ⟨rfl, _, rfl⟩ | ⟨whole, others, rfl, htake, hrest⟩
      · rw [behind, Delivery.behind_nil]
      · rcases List.take_eq_nil_iff.mp htake.symm with hzero | hwhole
        · exact absurd hzero hn
        · rw [hwhole, List.drop_nil, if_pos rfl] at hrest
          rw [hwhole, behind, Delivery.behind_empty hn, hrest]
  | directory =>
      simp [read] at h

theorem behind_of_read_bytes {n : Nat} {s rest : Source} {bytes : List UInt8}
    (h : s.read n = (.ok bytes, rest)) (hbytes : bytes ≠ []) :
    s.behind n = rest.behind (n - bytes.length) := by
  cases s with
  | memory data position =>
      obtain ⟨hlength, rfl⟩ := length_memory_read h
      rw [behind, behind, memory.injEq]
      exact ⟨rfl, by omega⟩
  | feed deliveries seekFault =>
      obtain ⟨left, rfl, hanswer⟩ := answer_of_feed_read h
      rcases Delivery.answer_ok hanswer with
        ⟨_, hnone, _⟩ | ⟨whole, others, rfl, rfl, hrest⟩
      · exact absurd hnone hbytes
      · have hwhole : whole ≠ [] := by
          rintro rfl
          exact hbytes List.take_nil
        rw [behind, behind, hrest, List.length_take]
        split
        · rename_i hdrop
          have hle : whole.length ≤ n := List.drop_eq_nil_iff.mp hdrop
          rw [Delivery.behind_chunk_of_le hwhole hle, Nat.min_eq_right hle]
        · rename_i hdrop
          have hlt : n < whole.length := Nat.not_le.mp (mt List.drop_eq_nil_iff.mpr hdrop)
          rw [Delivery.behind_chunk_of_lt hlt, Nat.min_eq_left (Nat.le_of_lt hlt), Nat.sub_self,
            Delivery.behind_zero]
  | directory =>
      simp [read] at h

theorem behind_of_read_interrupted {n : Nat} {s rest : Source} {cause : Fault} (hn : n ≠ 0)
    (h : s.read n = (.error cause, rest)) (hkind : cause.kind = .interrupted) :
    s.behind n = rest.behind n := by
  rcases read_error h with ⟨_, _, rfl⟩ | ⟨deliveries, seekFault, rfl, rfl⟩
  · simp [Fault.isDirectory] at hkind
  · rw [behind, behind, Delivery.behind_interruption hn hkind]

theorem behind_of_read_failed {n : Nat} {s rest : Source} {cause : Fault} (hn : n ≠ 0)
    (h : s.read n = (.error cause, rest)) (hkind : cause.kind ≠ .interrupted) :
    s.behind n = rest := by
  rcases read_error h with ⟨rfl, rfl, _⟩ | ⟨deliveries, seekFault, rfl, rfl⟩
  · rfl
  · rw [behind, Delivery.behind_failure hn hkind]

theorem source_fill (n : Nat) (s : Source) : (s.fill n).source = s.behind n := by
  fun_induction fill n s with
  | case1 s =>
      exact s.behind_zero.symm
  | case2 n s hn rest h =>
      exact (behind_of_read_nothing hn h).symm
  | case3 n s hn b bs rest h ih =>
      rw [behind_of_read_bytes h (List.cons_ne_nil b bs)]
      exact ih
  | case4 n s hn cause rest h hkind ih =>
      rw [behind_of_read_interrupted hn h hkind]
      exact ih
  | case5 n s hn cause rest h hkind =>
      exact (behind_of_read_failed hn h hkind).symm

theorem delivered_behind {n : Nat} {s : Source} (hn : n ≤ s.delivered.length) :
    (s.behind n).delivered = s.delivered.drop n ∧ (s.behind n).closing = s.closing := by
  rw [← source_fill]
  exact delivered_fill hn

end Source
end SubtitleExchange
