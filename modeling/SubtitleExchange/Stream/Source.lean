import SubtitleExchange.Octets
import SubtitleExchange.Stream.Fault

/-!
# Byte sources

A source answers a request for at most `n` bytes with some of its next bytes, with none, or with a
fault. A source in memory delivers all it is asked for; a feed delivers in pieces that were fixed
beforehand; a directory can be opened but not read.

`fill` asks until a buffer is full. No bytes are taken for the end, an interruption is passed over,
and any other fault ends the filling. It asks for exactly what is missing, so nothing is read ahead.
-/

namespace SubtitleExchange

inductive Delivery where
  | chunk (bytes : List UInt8)
  | fault (cause : Fault)
deriving DecidableEq

namespace Delivery

def size : Delivery → Nat
  | chunk bytes => bytes.length
  | fault _ => 0

def totalSize : List Delivery → Nat
  | [] => 0
  | delivery :: rest => delivery.size + totalSize rest

/-- The answer to one request, and the deliveries after it. A chunk longer than the request leaves
its rest as the next delivery, and there is an end after the last delivery. -/
def answer (n : Nat) : List Delivery → Except Fault (List UInt8) × List Delivery
  | [] => (.ok [], [])
  | fault cause :: rest => (.error cause, rest)
  | chunk bytes :: rest =>
      match bytes.drop n with
      | [] => (.ok bytes, rest)
      | b :: bs => (.ok (bytes.take n), chunk (b :: bs) :: rest)

theorem totalSize_answer_ok {n : Nat} {deliveries rest : List Delivery} {bytes : List UInt8}
    (h : answer n deliveries = (.ok bytes, rest)) :
    bytes.length + totalSize rest = totalSize deliveries := by
  unfold answer at h
  split at h
  · simp only [Prod.mk.injEq, Except.ok.injEq] at h
    simp [← h.1, ← h.2]
  · simp at h
  · split at h
    · simp only [Prod.mk.injEq, Except.ok.injEq] at h
      simp [← h.1, ← h.2, totalSize, size]
    · rename_i hdrop
      simp only [Prod.mk.injEq, Except.ok.injEq] at h
      rw [← h.1, ← h.2, ← hdrop]
      simp only [totalSize, size, List.length_take, List.length_drop]
      omega

theorem answer_error {n : Nat} {deliveries rest : List Delivery} {cause : Fault}
    (h : answer n deliveries = (.error cause, rest)) : deliveries = fault cause :: rest := by
  unfold answer at h
  split at h
  · simp at h
  · simp_all
  · split at h <;> simp at h

theorem length_answer_le (n : Nat) (deliveries : List Delivery) :
    (answer n deliveries).2.length ≤ deliveries.length := by
  unfold answer
  split
  · exact Nat.le_refl _
  · simp
  · split <;> simp

end Delivery

inductive Source where
  | memory (data : Array UInt8) (position : Nat)
  | feed (deliveries : List Delivery) (seekFault : Option Fault)
  | directory
deriving DecidableEq

namespace Source

def ofBytes (bytes : List UInt8) : Source :=
  memory bytes.toArray 0

def read (n : Nat) : Source → Except Fault (List UInt8) × Source
  | memory data position =>
      let bytes := data.extract position (position + n)
      (.ok bytes.toList, memory data (position + bytes.size))
  | feed deliveries seekFault =>
      let (result, rest) := Delivery.answer n deliveries
      (result, feed rest seekFault)
  | directory => (.error Fault.isDirectory, directory)

/-- A position past the end of memory is accepted. A feed stays where it is. -/
def seek (target : Nat) : Source → Except Fault Source
  | memory data _ => .ok (memory data target)
  | feed deliveries none => .ok (feed deliveries none)
  | feed _ (some cause) => .error cause
  | directory => .ok directory

/-!
# Measures

The bytes that a source can still deliver, and the deliveries that a feed has left.
-/

def remaining : Source → Nat
  | memory data position => data.size - position
  | feed deliveries _ => Delivery.totalSize deliveries
  | directory => 0

def pending : Source → Nat
  | feed deliveries _ => deliveries.length
  | _ => 0

theorem remaining_read_ok {n : Nat} {s rest : Source} {bytes : List UInt8}
    (h : s.read n = (.ok bytes, rest)) : bytes.length + rest.remaining = s.remaining := by
  cases s with
  | memory data position =>
      simp only [read, Prod.mk.injEq, Except.ok.injEq] at h
      obtain ⟨rfl, rfl⟩ := h
      simp only [remaining, Array.length_toList, Array.size_extract]
      omega
  | feed deliveries seekFault =>
      simp only [read, Prod.mk.injEq] at h
      obtain ⟨hbytes, rfl⟩ := h
      exact Delivery.totalSize_answer_ok (Prod.ext hbytes rfl)
  | directory =>
      simp [read] at h

theorem read_error {n : Nat} {s rest : Source} {cause : Fault}
    (h : s.read n = (.error cause, rest)) :
    (s = directory ∧ rest = directory ∧ cause = Fault.isDirectory) ∨
      ∃ deliveries seekFault,
        s = feed (.fault cause :: deliveries) seekFault ∧ rest = feed deliveries seekFault := by
  cases s with
  | memory data position =>
      simp [read] at h
  | feed deliveries seekFault =>
      simp only [read, Prod.mk.injEq] at h
      obtain ⟨hcause, rfl⟩ := h
      have hanswer := Delivery.answer_error (Prod.ext hcause rfl)
      refine Or.inr ⟨(Delivery.answer n deliveries).2, seekFault, ?_, rfl⟩
      rw [← hanswer]
  | directory =>
      simp only [read, Prod.mk.injEq, Except.error.injEq] at h
      exact Or.inl ⟨rfl, h.2.symm, h.1.symm⟩

theorem remaining_read_error {n : Nat} {s rest : Source} {cause : Fault}
    (h : s.read n = (.error cause, rest)) : rest.remaining = s.remaining := by
  rcases read_error h with ⟨rfl, rfl, _⟩ | ⟨deliveries, seekFault, rfl, rfl⟩
  · rfl
  · simp [remaining, Delivery.totalSize, Delivery.size]

theorem pending_read_le (n : Nat) (s : Source) : (s.read n).2.pending ≤ s.pending := by
  cases s with
  | memory data position => exact Nat.le_refl 0
  | feed deliveries seekFault => exact Delivery.length_answer_le n deliveries
  | directory => exact Nat.le_refl 0

theorem pending_read_interrupted {n : Nat} {s rest : Source} {cause : Fault}
    (h : s.read n = (.error cause, rest)) (hkind : cause.kind = .interrupted) :
    rest.pending < s.pending := by
  rcases read_error h with ⟨_, _, rfl⟩ | ⟨deliveries, seekFault, rfl, rfl⟩
  · simp [Fault.isDirectory] at hkind
  · simp [pending]

/-!
# Filling a buffer

Each request is for what is missing. It brings bytes, or uses up an interruption, or is the last.
-/

/-- Why no more was asked for. -/
inductive Ending where
  | full
  | ended
  | failed (cause : Fault)
deriving DecidableEq

structure Filling where
  bytes : List UInt8
  ending : Ending
  requests : List Nat
  source : Source
deriving DecidableEq

/-- What a filling becomes when a request for `n` bytes, which brought `bytes`, comes before it. -/
def Filling.after (n : Nat) (bytes : List UInt8) (next : Filling) : Filling :=
  ⟨bytes ++ next.bytes, next.ending, n :: next.requests, next.source⟩

def fill (n : Nat) (s : Source) : Filling :=
  if n = 0 then
    ⟨[], .full, [], s⟩
  else
    match _hread : s.read n with
    | (.ok [], rest) => ⟨[], .ended, [n], rest⟩
    | (.ok (b :: bs), rest) => (fill (n - (b :: bs).length) rest).after n (b :: bs)
    | (.error cause, rest) =>
        if _hkind : cause.kind = .interrupted then
          (fill n rest).after n []
        else
          ⟨[], .failed cause, [n], rest⟩
termination_by n + s.pending
decreasing_by
  · have hle : rest.pending ≤ s.pending := by
      have hpending := pending_read_le n s
      rwa [_hread] at hpending
    simp only [List.length_cons]
    omega
  · have hlt := pending_read_interrupted _hread _hkind
    omega

theorem remaining_fill (n : Nat) (s : Source) :
    (s.fill n).bytes.length + (s.fill n).source.remaining = s.remaining := by
  fun_induction fill n s with
  | case1 s => simp
  | case2 n s hn rest h => exact remaining_read_ok h
  | case3 n s hn b bs rest h ih =>
      have hread := remaining_read_ok h
      simp only [Filling.after, List.length_append]
      omega
  | case4 n s hn cause rest h hkind ih =>
      have hread := remaining_read_error h
      simp only [Filling.after, List.nil_append]
      omega
  | case5 n s hn cause rest h hkind =>
      simpa using remaining_read_error h

/-- A buffer of `n` bytes, or the fault that kept it from being filled. -/
def readExact (n : Nat) (s : Source) : Except Fault (Octets n) × Source :=
  let filling := s.fill n
  match filling.ending with
  | .failed cause => (.error cause, filling.source)
  | _ =>
      match Octets.ofList? n filling.bytes with
      | some octets => (.ok octets, filling.source)
      | none => (.error Fault.endOfInput, filling.source)

/-!
# Sources in memory

What lies in memory is delivered in one piece, so a request inside the data fills its buffer.
-/

theorem read_memory {n position : Nat} {data : Array UInt8} (h : position + n ≤ data.size) :
    (memory data position).read n =
      (.ok ((data.toList.drop position).take n), memory data (position + n)) := by
  simp only [read, Array.toList_extract, List.extract_eq_take_drop, Array.size_extract,
    Prod.mk.injEq, Source.memory.injEq, true_and]
  constructor
  · simp
  · omega

theorem fill_memory {n position : Nat} {data : Array UInt8} (h : position + n ≤ data.size) :
    (memory data position).fill n =
      ⟨(data.toList.drop position).take n, .full, if n = 0 then [] else [n],
        memory data (position + n)⟩ := by
  rw [fill]
  split
  · rename_i hn
    subst hn
    simp
  · rename_i hn
    have hlength : ((data.toList.drop position).take n).length = n := by
      simp only [List.length_take, List.length_drop, Array.length_toList]
      omega
    rw [read_memory h]
    split
    · rename_i heq
      simp only [Prod.mk.injEq, Except.ok.injEq] at heq
      rw [heq.1] at hlength
      simp only [List.length_nil] at hlength
      omega
    · rename_i heq
      simp only [Prod.mk.injEq, Except.ok.injEq] at heq
      have hdone : fill (n - n) (memory data (position + n)) =
          ⟨[], .full, [], memory data (position + n)⟩ := by
        rw [Nat.sub_self, fill]
        simp
      rw [← heq.1, ← heq.2, hlength, hdone]
      simp [Filling.after]
    · rename_i heq
      simp at heq

theorem length_take_drop {n position : Nat} {data : Array UInt8}
    (h : position + n ≤ data.size) : ((data.toList.drop position).take n).length = n := by
  simp only [List.length_take, List.length_drop, Array.length_toList]
  omega

theorem readExact_memory {n position : Nat} {data : Array UInt8}
    (h : position + n ≤ data.size) :
    (memory data position).readExact n =
      (.ok ⟨(data.toList.drop position).take n, length_take_drop h⟩,
        memory data (position + n)) := by
  simp [readExact, fill_memory h, Octets.ofList?, length_take_drop h]

end Source
end SubtitleExchange
