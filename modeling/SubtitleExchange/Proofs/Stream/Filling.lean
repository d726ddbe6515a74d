import SubtitleExchange.Stream.Delivered

/-!
# Filling a buffer

What a source delivers is a list of bytes and the fault after them, if there is one. A buffer is
filled with the first bytes of that list, and no others are taken from the source. How the bytes are
cut into chunks and where interruptions fall is not part of the answer.
-/

namespace SubtitleExchange

namespace Delivery

/-- All bytes of a feed, those behind its end or a fault among them. -/
def contents : List Delivery → List UInt8
  | [] => []
  | chunk bytes :: rest => bytes ++ contents rest
  | fault _ :: rest => contents rest

theorem delivered_prefix_contents (deliveries : List Delivery) :
    delivered deliveries <+: contents deliveries := by
  induction deliveries with
  | nil =>
      exact List.prefix_refl []
  | cons head rest ih =>
      cases head with
      | chunk bytes =>
          rw [delivered, contents]
          split
          · exact List.nil_prefix
          · exact (List.prefix_append_right_inj bytes).mpr ih
      | fault cause =>
          rw [delivered, contents]
          split
          · exact ih
          · exact List.nil_prefix

theorem delivered_chunk (bytes : List UInt8) (hbytes : bytes ≠ []) (rest : List Delivery) :
    delivered (chunk bytes :: rest) = bytes ++ delivered rest := by
  rw [delivered, if_neg (by simpa using hbytes)]

theorem closing_chunk (bytes : List UInt8) (hbytes : bytes ≠ []) (rest : List Delivery) :
    closing (chunk bytes :: rest) = closing rest := by
  rw [closing, if_neg (by simpa using hbytes)]

/-- An answered request took its bytes from the front of a chunk, or met the end of the feed. -/
theorem answer_ok {n : Nat} {deliveries rest : List Delivery} {bytes : List UInt8}
    (h : answer n deliveries = (.ok bytes, rest)) :
    (deliveries = [] ∧ bytes = [] ∧ rest = []) ∨
      ∃ whole others, deliveries = chunk whole :: others ∧ bytes = whole.take n ∧
        rest = if whole.drop n = [] then others else chunk (whole.drop n) :: others := by
  unfold answer at h
  split at h
  · simp only [Prod.mk.injEq, Except.ok.injEq] at h
    exact Or.inl ⟨rfl, h.1.symm, h.2.symm⟩
  · simp at h
  · rename_i whole others
    refine Or.inr ⟨whole, others, rfl, ?_⟩
    split at h
    · rename_i hdrop
      simp only [Prod.mk.injEq, Except.ok.injEq] at h
      have htake : whole.take n = whole := by
        have hsplit := List.take_append_drop n whole
        rwa [hdrop, List.append_nil] at hsplit
      rw [htake, if_pos hdrop]
      exact ⟨h.1.symm, h.2.symm⟩
    · rename_i b bs hdrop
      simp only [Prod.mk.injEq, Except.ok.injEq] at h
      rw [if_neg (by simp [hdrop]), hdrop]
      exact ⟨h.1.symm, h.2.symm⟩

end Delivery

namespace Source

/-- The bytes that a source delivers to a buffer without bounds. -/
def delivered : Source → List UInt8
  | memory data position => data.toList.drop position
  | feed deliveries _ => Delivery.delivered deliveries
  | directory => []

/-- The fault that ends what a source delivers, if it is a fault. -/
def closing : Source → Option Fault
  | memory _ _ => none
  | feed deliveries _ => Delivery.closing deliveries
  | directory => some Fault.isDirectory

/-- All bytes that a source still holds. -/
def contents : Source → List UInt8
  | memory data position => data.toList.drop position
  | feed deliveries _ => Delivery.contents deliveries
  | directory => []

/-!
# One request

A request brings bytes, or passes over an interruption, or meets the end of what is delivered.
-/

theorem take_append_drop_length (n : Nat) (bytes : List UInt8) :
    bytes.take n ++ bytes.drop (bytes.take n).length = bytes := by
  rw [List.length_take]
  rcases Nat.le_total n bytes.length with hle | hle
  · rw [Nat.min_eq_left hle, List.take_append_drop]
  · rw [Nat.min_eq_right hle, List.take_of_length_le hle, List.drop_length, List.append_nil]

theorem delivered_memory_read {n position : Nat} {data : Array UInt8} {rest : Source}
    {bytes : List UInt8} (h : (memory data position).read n = (.ok bytes, rest)) :
    bytes = (data.toList.drop position).take n ∧
      data.toList.drop position = bytes ++ rest.delivered ∧
      rest = memory data (position + bytes.length) := by
  simp only [read, Prod.mk.injEq, Except.ok.injEq] at h
  obtain ⟨rfl, rfl⟩ := h
  have hbytes : (data.extract position (position + n)).toList =
      (data.toList.drop position).take n := by
    simp [List.extract_eq_take_drop]
  have hsize : (data.extract position (position + n)).size =
      ((data.toList.drop position).take n).length := by
    rw [← hbytes, Array.length_toList]
  rw [hsize, hbytes]
  refine ⟨rfl, ?_, rfl⟩
  rw [delivered, ← List.drop_drop, take_append_drop_length]

theorem answer_of_feed_read {n : Nat} {deliveries : List Delivery} {seekFault : Option Fault}
    {result : Except Fault (List UInt8)} {rest : Source}
    (h : (feed deliveries seekFault).read n = (result, rest)) :
    ∃ others, rest = feed others seekFault ∧
      Delivery.answer n deliveries = (result, others) := by
  cases hanswer : Delivery.answer n deliveries with
  | mk first others =>
      simp only [read, hanswer, Prod.mk.injEq] at h
      exact ⟨others, h.2.symm, by rw [h.1]⟩

theorem delivered_of_read_bytes {n : Nat} {s rest : Source} {bytes : List UInt8}
    (h : s.read n = (.ok bytes, rest)) (hbytes : bytes ≠ []) :
    s.delivered = bytes ++ rest.delivered ∧ rest.closing = s.closing := by
  cases s with
  | memory data position =>
      obtain ⟨_, hdelivered, hrest⟩ := delivered_memory_read h
      rw [hrest] at hdelivered ⊢
      exact ⟨hdelivered, rfl⟩
  | feed deliveries seekFault =>
      obtain ⟨left, rfl, hanswer⟩ := answer_of_feed_read h
      rcases Delivery.answer_ok hanswer with
        ⟨_, hnone, _⟩ | ⟨whole, others, rfl, htake, hrest⟩
      · exact absurd hnone hbytes
      · have hwhole : whole ≠ [] := by
          rintro rfl
          exact hbytes (by simpa using htake)
        have hsplit := List.take_append_drop n whole
        simp only [delivered, closing]
        rw [hrest, Delivery.delivered_chunk whole hwhole, Delivery.closing_chunk whole hwhole]
        split
        · rename_i hdrop
          rw [hdrop, List.append_nil] at hsplit
          rw [htake, hsplit]
          exact ⟨rfl, rfl⟩
        · rename_i hdrop
          rw [Delivery.delivered_chunk _ hdrop, Delivery.closing_chunk _ hdrop, htake,
            ← List.append_assoc, hsplit]
          exact ⟨rfl, rfl⟩
  | directory =>
      simp [read] at h

theorem delivered_of_read_nothing {n : Nat} {s rest : Source} (hn : n ≠ 0)
    (h : s.read n = (.ok [], rest)) : s.delivered = [] ∧ s.closing = none := by
  cases s with
  | memory data position =>
      obtain ⟨hnone, _, _⟩ := delivered_memory_read h
      rcases List.take_eq_nil_iff.mp hnone.symm with hzero | hdrop
      · exact absurd hzero hn
      · exact ⟨hdrop, rfl⟩
  | feed deliveries seekFault =>
      obtain ⟨left, rfl, hanswer⟩ := answer_of_feed_read h
      rcases Delivery.answer_ok hanswer with
        ⟨rfl, _, _⟩ | ⟨whole, others, rfl, htake, _⟩
      · exact ⟨rfl, rfl⟩
      · rcases List.take_eq_nil_iff.mp htake.symm with hzero | hwhole
        · exact absurd hzero hn
        · subst hwhole
          exact ⟨rfl, rfl⟩
  | directory =>
      simp [read] at h

theorem delivered_of_read_interrupted {n : Nat} {s rest : Source} {cause : Fault}
    (h : s.read n = (.error cause, rest)) (hkind : cause.kind = .interrupted) :
    rest.delivered = s.delivered ∧ rest.closing = s.closing := by
  rcases read_error h with ⟨_, _, rfl⟩ | ⟨deliveries, seekFault, rfl, rfl⟩
  · simp [Fault.isDirectory] at hkind
  · simp [delivered, closing, Delivery.delivered, Delivery.closing, hkind]

theorem delivered_of_read_failed {n : Nat} {s rest : Source} {cause : Fault}
    (h : s.read n = (.error cause, rest)) (hkind : cause.kind ≠ .interrupted) :
    s.delivered = [] ∧ s.closing = some cause := by
  rcases read_error h with ⟨rfl, _, rfl⟩ | ⟨deliveries, seekFault, rfl, rfl⟩
  · exact ⟨rfl, rfl⟩
  · simp [delivered, closing, Delivery.delivered, Delivery.closing, hkind]

theorem contents_of_read_ok {n : Nat} {s rest : Source} {bytes : List UInt8}
    (h : s.read n = (.ok bytes, rest)) : bytes ++ rest.contents = s.contents := by
  cases s with
  | memory data position =>
      obtain ⟨_, hdelivered, hrest⟩ := delivered_memory_read h
      rw [hrest] at hdelivered ⊢
      exact hdelivered.symm
  | feed deliveries seekFault =>
      obtain ⟨left, rfl, hanswer⟩ := answer_of_feed_read h
      rcases Delivery.answer_ok hanswer with
        ⟨rfl, rfl, rfl⟩ | ⟨whole, others, rfl, rfl, hrest⟩
      · rfl
      · have hsplit := List.take_append_drop n whole
        simp only [contents, Delivery.contents]
        rw [hrest]
        split
        · rename_i hdrop
          rw [hdrop, List.append_nil] at hsplit
          rw [hsplit]
        · rw [Delivery.contents, ← List.append_assoc, hsplit]
  | directory =>
      simp [read] at h

theorem contents_of_read_error {n : Nat} {s rest : Source} {cause : Fault}
    (h : s.read n = (.error cause, rest)) : rest.contents = s.contents := by
  rcases read_error h with ⟨rfl, rfl, _⟩ | ⟨deliveries, seekFault, rfl, rfl⟩
  · rfl
  · rfl

theorem length_of_read_le {n : Nat} {s rest : Source} {bytes : List UInt8}
    (h : s.read n = (.ok bytes, rest)) : bytes.length ≤ n := by
  cases s with
  | memory data position =>
      obtain ⟨rfl, _, _⟩ := delivered_memory_read h
      exact List.length_take_le n _
  | feed deliveries seekFault =>
      obtain ⟨left, rfl, hanswer⟩ := answer_of_feed_read h
      rcases Delivery.answer_ok hanswer with ⟨_, rfl, _⟩ | ⟨whole, others, _, rfl, _⟩
      · exact Nat.zero_le n
      · exact List.length_take_le n whole
  | directory =>
      simp [read] at h

/-!
# All requests of a filling

The requests go on until the buffer is full or the source delivers no more, so the answers to them
add up to a function of what is delivered.
-/

/-- How a filling ends that takes all that is delivered and wants more. -/
def Ending.ofClosing : Option Fault → Ending
  | none => .ended
  | some cause => .failed cause

theorem bytes_fill (n : Nat) (s : Source) : (s.fill n).bytes = s.delivered.take n := by
  fun_induction fill n s with
  | case1 s =>
      exact List.take_zero.symm
  | case2 n s hn rest h =>
      rw [(delivered_of_read_nothing hn h).1, List.take_nil]
  | case3 n s hn b bs rest h ih =>
      have hlength := length_of_read_le h
      rw [(delivered_of_read_bytes h (List.cons_ne_nil b bs)).1, List.take_append,
        List.take_of_length_le hlength, ← ih]
      rfl
  | case4 n s hn cause rest h hkind ih =>
      rw [← (delivered_of_read_interrupted h hkind).1, ← ih]
      rfl
  | case5 n s hn cause rest h hkind =>
      rw [(delivered_of_read_failed h hkind).1, List.take_nil]

theorem ending_fill (n : Nat) (s : Source) :
    (s.fill n).ending =
      if n ≤ s.delivered.length then .full else Ending.ofClosing s.closing := by
  fun_induction fill n s with
  | case1 s =>
      rw [if_pos (Nat.zero_le _)]
  | case2 n s hn rest h =>
      have hnothing := delivered_of_read_nothing hn h
      rw [hnothing.1, hnothing.2, if_neg (by simpa using hn)]
      rfl
  | case3 n s hn b bs rest h ih =>
      have hlength := length_of_read_le h
      have hbytes := delivered_of_read_bytes h (List.cons_ne_nil b bs)
      have hiff : n ≤ ((b :: bs) ++ rest.delivered).length ↔
          n - (b :: bs).length ≤ rest.delivered.length := by
        rw [List.length_append]
        omega
      rw [hbytes.1, ← hbytes.2, Filling.after, ih]
      simp only [hiff]
  | case4 n s hn cause rest h hkind ih =>
      have hinterrupted := delivered_of_read_interrupted h hkind
      rw [← hinterrupted.1, ← hinterrupted.2, ← ih]
      rfl
  | case5 n s hn cause rest h hkind =>
      have hfailed := delivered_of_read_failed h hkind
      rw [hfailed.1, hfailed.2, if_neg (by simpa using hn)]
      rfl

/-- A buffer that was filled leaves the rest of what is delivered, with the same end. -/
theorem delivered_fill {n : Nat} {s : Source} (hn : n ≤ s.delivered.length) :
    (s.fill n).source.delivered = s.delivered.drop n ∧
      (s.fill n).source.closing = s.closing := by
  fun_induction fill n s with
  | case1 s =>
      exact ⟨List.drop_zero.symm, rfl⟩
  | case2 n s hne rest h =>
      rw [(delivered_of_read_nothing hne h).1, List.length_nil, Nat.le_zero] at hn
      exact absurd hn hne
  | case3 n s hne b bs rest h ih =>
      have hlength := length_of_read_le h
      have hbytes := delivered_of_read_bytes h (List.cons_ne_nil b bs)
      rw [hbytes.1, List.length_append] at hn
      have hrest := ih (by omega)
      rw [hbytes.1, ← hbytes.2, List.drop_append, List.drop_of_length_le hlength,
        List.nil_append]
      exact hrest
  | case4 n s hne cause rest h hkind ih =>
      have hinterrupted := delivered_of_read_interrupted h hkind
      rw [← hinterrupted.1] at hn
      rw [← hinterrupted.1, ← hinterrupted.2]
      exact ih hn
  | case5 n s hne cause rest h hkind =>
      rw [(delivered_of_read_failed h hkind).1, List.length_nil, Nat.le_zero] at hn
      exact absurd hn hne

/-- Nothing is read ahead: the bytes of the buffer are all that the source has lost. -/
theorem contents_fill (n : Nat) (s : Source) :
    (s.fill n).bytes ++ (s.fill n).source.contents = s.contents := by
  fun_induction fill n s with
  | case1 s =>
      rfl
  | case2 n s hn rest h =>
      exact contents_of_read_ok h
  | case3 n s hn b bs rest h ih =>
      rw [← contents_of_read_ok h, ← ih, ← List.append_assoc]
      rfl
  | case4 n s hn cause rest h hkind ih =>
      rw [← contents_of_read_error h, ← ih]
      rfl
  | case5 n s hn cause rest h hkind =>
      exact contents_of_read_error h

end Source
end SubtitleExchange
