import SubtitleExchange.Proofs.Stream.Filling
import SubtitleExchange.Stream.Buffer

/-!
# Filling a buffer comes to an end

A call that is not the last one brings bytes or uses up an interruption, so the calls are bounded by
the length of the buffer and the interruptions met. The buffer then starts with what was delivered,
and behind that it is as it was.
-/

namespace SubtitleExchange

namespace Delivery

theorem interruptions_chunk (bytes : List UInt8) (hbytes : bytes ≠ []) (rest : List Delivery) :
    interruptions (chunk bytes :: rest) = interruptions rest := by
  rw [interruptions, if_neg (by simpa using hbytes)]

end Delivery

namespace Source

variable {n : Nat}

/-!
# The filling without its buffer

What is done to the buffer has no influence on the requests, so they are those of `fill`.
-/

theorem fill_of_ne_zero (hn : n ≠ 0) (s : Source) :
    s.fill n =
      match s.read n with
      | (.ok [], rest) => ⟨[], .ended, [n], rest⟩
      | (.ok (b :: bs), rest) => (fill (n - (b :: bs).length) rest).after n (b :: bs)
      | (.error cause, rest) =>
          if cause.kind = .interrupted then
            (fill n rest).after n []
          else
            ⟨[], .failed cause, [n], rest⟩ := by
  rw [fill, if_neg hn]
  split
  · rename_i h
    rw [h]
  · rename_i h
    rw [h]
  · rename_i h
    rw [h]
    split
    · rename_i hkind
      exact (if_pos hkind).symm
    · rename_i hkind
      exact (if_neg hkind).symm

theorem filling_fillFrom {count : Nat} (hcount : count ≤ n) (buffer : Octets n) (s : Source) :
    (s.fillFrom count buffer).filling = s.fill (n - count) := by
  fun_induction fillFrom count buffer s with
  | case1 count buffer s hlt rest h =>
      rw [fill_of_ne_zero (by omega), h]
      simp [BufferFilling.filling, Call.brought, hlt]
  | case2 count buffer s hlt b bs rest h ih =>
      have hlength := length_of_read_le h
      rw [fill_of_ne_zero (by omega), h]
      dsimp only
      rw [Nat.sub_sub, ← ih (by omega)]
      rfl
  | case3 count buffer s hlt cause rest h hkind ih =>
      rw [fill_of_ne_zero (by omega), h]
      dsimp only
      rw [if_pos hkind, ← ih hcount]
      rfl
  | case4 count buffer s hlt cause rest h hkind =>
      rw [fill_of_ne_zero (by omega), h]
      dsimp only
      rw [if_neg hkind]
      rfl
  | case5 count buffer s hlt =>
      have hfull : count = n := by omega
      subst hfull
      rw [Nat.sub_self, fill]
      simp [BufferFilling.filling]

/-!
# The calls

Every call is a request to the source as the calls before left it, for what they left missing.
-/

theorem callsOf_cons {s next last : Source} {asked : Nat} {answer : Except Fault (List UInt8)}
    {calls : List Call} (h : s.read asked = (answer, next))
    (hcalls : callsOf (calls.map Call.asked) next = (calls, last)) :
    callsOf ((⟨asked, answer⟩ :: calls : List Call).map Call.asked) s =
      (⟨asked, answer⟩ :: calls, last) := by
  rw [List.map_cons, callsOf, h]
  dsimp only
  rw [hcalls]

theorem callsOf_fillFrom (count : Nat) (buffer : Octets n) (s : Source) :
    callsOf ((s.fillFrom count buffer).calls.map Call.asked) s =
      ((s.fillFrom count buffer).calls, (s.fillFrom count buffer).source) := by
  fun_induction fillFrom count buffer s with
  | case1 count buffer s hlt rest h =>
      exact callsOf_cons h rfl
  | case2 count buffer s hlt b bs rest h ih =>
      exact callsOf_cons h ih
  | case3 count buffer s hlt cause rest h hkind ih =>
      exact callsOf_cons h ih
  | case4 count buffer s hlt cause rest h hkind =>
      exact callsOf_cons h rfl
  | case5 count buffer s hlt =>
      rfl

/-- If every call behind the first asks for what is then missing, and so does the first, all do. -/
theorem missing_cons {count : Nat} {first call : Call} {calls front rest : List Call}
    (h : first :: calls = front ++ call :: rest) (hlt : count < n) (hfirst : first.asked = n - count)
    (hcalls : ∀ others, calls = others ++ call :: rest → 0 < call.asked ∧
      count + first.brought.length + (others.flatMap Call.brought).length + call.asked = n) :
    0 < call.asked ∧ count + (front.flatMap Call.brought).length + call.asked = n := by
  cases front with
  | nil =>
      obtain ⟨rfl, _⟩ := List.cons.inj h
      rw [List.flatMap_nil, List.length_nil]
      omega
  | cons head others =>
      obtain ⟨rfl, htail⟩ := List.cons.inj h
      obtain ⟨hpos, hsum⟩ := hcalls others htail
      rw [List.flatMap_cons, List.length_append]
      omega

theorem missing_fillFrom {count : Nat} {buffer : Octets n} {s : Source} {front rest : List Call}
    {call : Call} (h : (s.fillFrom count buffer).calls = front ++ call :: rest) :
    0 < call.asked ∧ count + (front.flatMap Call.brought).length + call.asked = n := by
  have hnil : ∀ others, ([] : List Call) ≠ others ++ call :: rest := by simp
  fun_induction fillFrom count buffer s generalizing front with
  | case1 count buffer s hlt last hread =>
      exact missing_cons h hlt rfl fun others hothers => absurd hothers (hnil others)
  | case2 count buffer s hlt b bs next hread ih =>
      exact missing_cons h hlt rfl fun others hothers => ih hothers
  | case3 count buffer s hlt cause next hread hkind ih =>
      exact missing_cons h hlt rfl fun others hothers => ih hothers
  | case4 count buffer s hlt cause next hread hkind =>
      exact missing_cons h hlt rfl fun others hothers => absurd hothers (hnil others)
  | case5 count buffer s hlt =>
      exact absurd h (hnil front)

theorem count_fillFrom {count total : Nat} {buffer : Octets n} {s : Source}
    (h : (s.fillFrom count buffer).count = .ok total) :
    total = count + ((s.fillFrom count buffer).calls.flatMap Call.brought).length := by
  fun_induction fillFrom count buffer s with
  | case1 count buffer s hlt rest hread =>
      exact (Except.ok.inj h).symm
  | case2 count buffer s hlt b bs rest hread ih =>
      rw [BufferFilling.after, List.flatMap_cons, List.length_append, ← Nat.add_assoc]
      exact ih h
  | case3 count buffer s hlt cause rest hread hkind ih =>
      exact ih h
  | case4 count buffer s hlt cause rest hread hkind =>
      contradiction
  | case5 count buffer s hlt =>
      exact (Except.ok.inj h).symm

theorem buffer_fillFrom (count : Nat) (buffer : Octets n) (s : Source) :
    (s.fillFrom count buffer).buffer =
      buffer.overwrite count ((s.fillFrom count buffer).calls.flatMap Call.brought) := by
  fun_induction fillFrom count buffer s with
  | case1 count buffer s hlt rest h =>
      exact (buffer.overwrite_nil count).symm
  | case2 count buffer s hlt b bs rest h ih =>
      rw [BufferFilling.after, List.flatMap_cons, Octets.overwrite_append]
      exact ih
  | case3 count buffer s hlt cause rest h hkind ih =>
      exact ih
  | case4 count buffer s hlt cause rest h hkind =>
      exact (buffer.overwrite_nil count).symm
  | case5 count buffer s hlt =>
      exact (buffer.overwrite_nil count).symm

/-!
# How the calls end

All calls but the last one go on. Whether there is a last one, and how it was answered, is what the
result tells.
-/

/-- The call brought bytes or was interrupted. -/
def Call.GoesOn (call : Call) : Prop :=
  call.brought ≠ [] ∨ call.isInterrupted = true

inductive Closes (n : Nat) : Except Fault Nat → List Call → Prop where
  | full : Closes n (.ok n) []
  | ended {count asked : Nat} (hlt : count < n) : Closes n (.ok count) [⟨asked, .ok []⟩]
  | failed {cause : Fault} {asked : Nat} (hkind : cause.kind ≠ .interrupted) :
      Closes n (.error cause) [⟨asked, .error cause⟩]

theorem calls_fillFrom {count : Nat} (hcount : count ≤ n) (buffer : Octets n) (s : Source) :
    ∃ front last, (s.fillFrom count buffer).calls = front ++ last ∧
      (∀ call ∈ front, call.GoesOn) ∧ Closes n (s.fillFrom count buffer).count last := by
  fun_induction fillFrom count buffer s with
  | case1 count buffer s hlt rest h =>
      exact ⟨[], _, rfl, List.forall_mem_nil _, .ended hlt⟩
  | case2 count buffer s hlt b bs rest h ih =>
      have hlength := length_of_read_le h
      obtain ⟨front, last, hcalls, hfront, hlast⟩ := ih (by omega)
      refine ⟨⟨n - count, .ok (b :: bs)⟩ :: front, last, ?_, ?_, hlast⟩
      · exact congrArg (List.cons _) hcalls
      · exact List.forall_mem_cons.mpr ⟨Or.inl (List.cons_ne_nil b bs), hfront⟩
  | case3 count buffer s hlt cause rest h hkind ih =>
      obtain ⟨front, last, hcalls, hfront, hlast⟩ := ih hcount
      refine ⟨⟨n - count, .error cause⟩ :: front, last, ?_, ?_, hlast⟩
      · exact congrArg (List.cons _) hcalls
      · exact List.forall_mem_cons.mpr ⟨Or.inr (decide_eq_true hkind), hfront⟩
  | case4 count buffer s hlt cause rest h hkind =>
      exact ⟨[], _, rfl, List.forall_mem_nil _, .failed hkind⟩
  | case5 count buffer s hlt =>
      have hfull : count = n := by omega
      subst hfull
      exact ⟨[], [], rfl, List.forall_mem_nil _, .full⟩

theorem Call.GoesOn.answer_ne {call : Call} (h : call.GoesOn) : call.answer ≠ .ok [] := by
  intro hanswer
  rw [GoesOn, brought, isInterrupted, hanswer] at h
  simp at h

theorem Call.GoesOn.interrupted {call : Call} {cause : Fault} (h : call.GoesOn)
    (hanswer : call.answer = .error cause) : cause.kind = .interrupted := by
  rw [GoesOn, brought, isInterrupted, hanswer] at h
  simpa using h

theorem length_le_of_goesOn {calls : List Call} (h : ∀ call ∈ calls, call.GoesOn) :
    calls.length ≤
      (calls.flatMap Call.brought).length + calls.countP Call.isInterrupted := by
  induction calls with
  | nil =>
      exact Nat.le_refl 0
  | cons call rest ih =>
      have hrest := ih fun other hother => h other (List.mem_cons_of_mem call hother)
      rw [List.length_cons, List.flatMap_cons, List.length_append, List.countP_cons]
      rcases h call List.mem_cons_self with hbrought | hinterrupted
      · have hpos := List.length_pos_iff.mpr hbrought
        omega
      · rw [if_pos hinterrupted]
        omega

namespace Closes

variable {result : Except Fault Nat} {front last : List Call}

theorem length_le_one (h : Closes n result last) : last.length ≤ 1 := by
  cases h with
  | full =>
      exact Nat.zero_le 1
  | ended hlt =>
      exact Nat.le_refl 1
  | failed hkind =>
      exact Nat.le_refl 1

theorem lt_iff {count : Nat} (h : Closes n (.ok count) last)
    (hfront : ∀ call ∈ front, call.GoesOn) :
    count < n ↔ ∃ call ∈ front ++ last, call.answer = .ok [] := by
  cases h with
  | full =>
      rw [List.append_nil]
      constructor
      · exact fun hlt => absurd hlt (Nat.lt_irrefl n)
      · rintro ⟨call, hcall, hanswer⟩
        exact absurd hanswer (hfront call hcall).answer_ne
  | ended hlt =>
      constructor
      · exact fun _ => ⟨_, List.mem_append_right front List.mem_cons_self, rfl⟩
      · exact fun _ => hlt

theorem error_iff {cause : Fault} (h : Closes n result last)
    (hfront : ∀ call ∈ front, call.GoesOn) :
    result = .error cause ↔
      cause.kind ≠ .interrupted ∧ ∃ call ∈ front ++ last, call.answer = .error cause := by
  have hlast : cause.kind ≠ .interrupted → ∀ call ∈ front ++ last, call.answer = .error cause →
      call ∈ last := by
    intro hkind call hcall hanswer
    rcases List.mem_append.mp hcall with hmem | hmem
    · exact absurd ((hfront call hmem).interrupted hanswer) hkind
    · exact hmem
  constructor
  · rintro rfl
    cases h with
    | failed hkind =>
        exact ⟨hkind, _, List.mem_append_right front List.mem_cons_self, rfl⟩
  · rintro ⟨hkind, call, hcall, hanswer⟩
    have hmem := hlast hkind call hcall hanswer
    cases h with
    | full =>
        contradiction
    | ended hlt =>
        rw [List.mem_singleton.mp hmem] at hanswer
        contradiction
    | failed hkind =>
        rw [List.mem_singleton.mp hmem] at hanswer
        exact congrArg Except.error (Except.error.inj hanswer)

end Closes

/-!
# The interruptions met

An interruption is met by one call only, and none is met behind the end of what is delivered.
-/

/-- The interruptions before the end of what a source delivers. -/
def interruptions : Source → Nat
  | feed deliveries _ => Delivery.interruptions deliveries
  | _ => 0

theorem interruptions_of_read_bytes {s rest : Source} {bytes : List UInt8}
    (h : s.read n = (.ok bytes, rest)) (hbytes : bytes ≠ []) :
    rest.interruptions = s.interruptions := by
  cases s with
  | memory data position =>
      obtain ⟨_, _, rfl⟩ := delivered_memory_read h
      rfl
  | feed deliveries seekFault =>
      obtain ⟨left, rfl, hanswer⟩ := answer_of_feed_read h
      rcases Delivery.answer_ok hanswer with
        ⟨_, hnone, _⟩ | ⟨whole, others, rfl, htake, rfl⟩
      · exact absurd hnone hbytes
      · have hwhole : whole ≠ [] := by
          rintro rfl
          exact hbytes (by simpa using htake)
        rw [interruptions, interruptions, Delivery.interruptions_chunk whole hwhole]
        split
        · rfl
        · rename_i hdrop
          exact Delivery.interruptions_chunk _ hdrop others
  | directory =>
      simp [read] at h

theorem interruptions_of_read_interrupted {s rest : Source} {cause : Fault}
    (h : s.read n = (.error cause, rest)) (hkind : cause.kind = .interrupted) :
    rest.interruptions + 1 = s.interruptions := by
  rcases read_error h with ⟨_, _, rfl⟩ | ⟨deliveries, seekFault, rfl, rfl⟩
  · simp [Fault.isDirectory] at hkind
  · rw [interruptions, interruptions, Delivery.interruptions, if_pos hkind]

theorem interruptions_fillFrom (count : Nat) (buffer : Octets n) (s : Source) :
    (s.fillFrom count buffer).calls.countP Call.isInterrupted ≤ s.interruptions := by
  fun_induction fillFrom count buffer s with
  | case1 count buffer s hlt rest hread =>
      exact Nat.zero_le _
  | case2 count buffer s hlt b bs rest hread ih =>
      rw [← interruptions_of_read_bytes hread (List.cons_ne_nil b bs)]
      exact ih
  | case3 count buffer s hlt cause rest hread hkind ih =>
      have hcall : Call.isInterrupted ⟨n - count, .error cause⟩ = true := decide_eq_true hkind
      rw [BufferFilling.after, List.countP_cons_of_pos hcall,
        ← interruptions_of_read_interrupted hread hkind]
      exact Nat.succ_le_succ ih
  | case4 count buffer s hlt cause rest hread hkind =>
      rw [List.countP_singleton, if_neg (by simpa [Call.isInterrupted] using hkind)]
      exact Nat.zero_le _
  | case5 count buffer s hlt =>
      exact Nat.zero_le _

/-!
# From the first call to the last
-/

theorem filling_fillBuffer (buffer : Octets n) (s : Source) :
    (s.fillBuffer buffer).filling = s.fill n :=
  filling_fillFrom (Nat.zero_le n) buffer s

theorem brought_fillBuffer (buffer : Octets n) (s : Source) :
    (s.fillBuffer buffer).calls.flatMap Call.brought = s.delivered.take n := by
  rw [← bytes_fill, ← filling_fillBuffer buffer]
  rfl

/-- Each byte of the buffer and each interruption is worth a call, and one more call ends it. -/
theorem length_calls_fillBuffer (buffer : Octets n) (s : Source) :
    (s.fillBuffer buffer).calls.length ≤
      n + (s.fillBuffer buffer).calls.countP Call.isInterrupted + 1 := by
  obtain ⟨front, last, hcalls, hfront, hlast⟩ := calls_fillFrom (Nat.zero_le n) buffer s
  have hcalls : (s.fillBuffer buffer).calls = front ++ last := hcalls
  have hone := hlast.length_le_one
  have hfew := length_le_of_goesOn hfront
  have hbrought : ((front ++ last).flatMap Call.brought).length ≤ n := by
    rw [← hcalls, brought_fillBuffer]
    exact List.length_take_le n _
  rw [List.flatMap_append, List.length_append] at hbrought
  rw [hcalls, List.length_append, List.countP_append]
  omega

theorem bytes_fillBuffer {buffer : Octets n} {s : Source} {count : Nat}
    (h : (s.fillBuffer buffer).count = .ok count) :
    (s.delivered.take n).length = count ∧
      (s.fillBuffer buffer).buffer.bytes = s.delivered.take n ++ buffer.bytes.drop count := by
  have hbuffer : (s.fillBuffer buffer).buffer = buffer.overwrite 0 (s.delivered.take n) := by
    rw [← brought_fillBuffer buffer]
    exact buffer_fillFrom 0 buffer s
  have hcount : (s.delivered.take n).length = count := by
    rw [← brought_fillBuffer buffer, count_fillFrom h, Nat.zero_add]
    rfl
  refine ⟨hcount, ?_⟩
  rw [hbuffer, Octets.bytes_overwrite_zero buffer (List.length_take_le n _), hcount]

/-- A buffer of any length is filled with finitely many requests, each for exactly what is missing.
They are those of `fill`, and their number is bounded by the length of the buffer and the
interruptions met. The buffer then starts with the bytes that were delivered and goes on as it was.
It is not full exactly if a request brought nothing, and it is given up exactly for a fault that is
no interruption. -/
theorem progress_of_fillBuffer (buffer : Octets n) (s : Source) :
    let result := s.fillBuffer buffer
    let interrupted := result.calls.countP Call.isInterrupted
    result.filling = s.fill n ∧
      callsOf (s.fill n).requests s = (result.calls, result.source) ∧
      result.calls.length ≤ n + interrupted + 1 ∧ interrupted ≤ s.interruptions ∧
      (∀ front call rest, result.calls = front ++ call :: rest →
        0 < call.asked ∧ (front.flatMap Call.brought).length + call.asked = n) ∧
      (∀ count, result.count = .ok count →
        count ≤ n ∧ result.buffer.bytes.take count = s.delivered.take n ∧
          result.buffer.bytes.drop count = buffer.bytes.drop count ∧
          (count < n ↔ ∃ call ∈ result.calls, call.answer = .ok [])) ∧
      ∀ cause, result.count = .error cause ↔
        cause.kind ≠ .interrupted ∧ ∃ call ∈ result.calls, call.answer = .error cause := by
  intro result interrupted
  have hfilling : result.filling = s.fill n := filling_fillBuffer buffer s
  obtain ⟨front, last, hcalls, hfront, hlast⟩ := calls_fillFrom (Nat.zero_le n) buffer s
  have hcalls : result.calls = front ++ last := hcalls
  refine ⟨hfilling, ?_, length_calls_fillBuffer buffer s, interruptions_fillFrom 0 buffer s,
    ?_, ?_, ?_⟩
  · rw [← hfilling]
    exact callsOf_fillFrom 0 buffer s
  · intro others call rest hsplit
    have hmissing := missing_fillFrom hsplit
    rwa [Nat.zero_add] at hmissing
  · intro count hcount
    obtain ⟨hlength, hbytes⟩ := bytes_fillBuffer hcount
    have hbytes : result.buffer.bytes = _ := hbytes
    refine ⟨hlength ▸ List.length_take_le n _, ?_, ?_, ?_⟩
    · rw [hbytes]
      exact List.take_left' hlength
    · rw [hbytes]
      exact List.drop_left' hlength
    · rw [hcalls]
      exact Closes.lt_iff (hcount ▸ hlast) hfront
  · intro cause
    rw [hcalls]
    exact hlast.error_iff hfront

/-- Two chunks with an interruption between them, an empty chunk, and a chunk behind that. -/
def haltedFeed : Source :=
  .feed [.chunk [1, 2], .fault ⟨.interrupted, "again"⟩, .chunk [3], .chunk [], .chunk [4]] none

theorem progress_of_haltedFeed :
    let result := haltedFeed.fillBuffer (Octets.replicate 5 9)
    let front : List Call := [⟨5, .ok [1, 2]⟩, ⟨3, .error ⟨.interrupted, "again"⟩⟩]
    result.calls = front ++ ⟨3, .ok [3]⟩ :: [⟨2, .ok []⟩] ∧
      (front.flatMap Call.brought).length + 3 = 5 ∧
      result.count = .ok 3 ∧
      result.buffer.bytes.take 3 = [1, 2, 3] ∧ result.buffer.bytes.drop 3 = [9, 9] ∧
      ∃ call ∈ result.calls, call.answer = .ok [] := by
  intro result front
  have hcalls : (haltedFeed.fillBuffer (Octets.replicate 5 9)).calls =
      front ++ ⟨3, .ok [3]⟩ :: [⟨2, .ok []⟩] := by
    cbv
  have hcount : (haltedFeed.fillBuffer (Octets.replicate 5 9)).count = .ok 3 := by
    cbv
  obtain ⟨_, _, _, _, hmissing, hfilled, _⟩ :=
    progress_of_fillBuffer (Octets.replicate 5 9) haltedFeed
  obtain ⟨_, htake, hdrop, hended⟩ := hfilled 3 hcount
  exact ⟨hcalls, (hmissing front ⟨3, .ok [3]⟩ _ hcalls).2, hcount, htake, hdrop,
    hended.mp (by decide)⟩

end Source
end SubtitleExchange
