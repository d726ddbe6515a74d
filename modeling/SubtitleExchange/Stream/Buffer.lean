import SubtitleExchange.Stream.Source

/-!
# Filling a buffer in place

A buffer is filled from its front. A request asks for as many bytes as are missing behind those that
are there, and what it brings is written there. Every request is kept with its answer.
-/

namespace SubtitleExchange

namespace Octets

variable {n : Nat}

/-- Other bytes take the place of those from a position on. Those that do not fit are left out. -/
def overwrite (o : Octets n) (position : Nat) (others : List UInt8) : Octets n where
  bytes := o.bytes.mapIdx fun i b => if i < position then b else others.getD (i - position) b
  length_eq := by rw [List.length_mapIdx, o.length_eq]

theorem getElem?_overwrite (o : Octets n) (position : Nat) (others : List UInt8) (i : Nat) :
    (o.overwrite position others).bytes[i]? =
      o.bytes[i]?.map fun b => if i < position then b else others.getD (i - position) b :=
  List.getElem?_mapIdx

theorem overwrite_nil (o : Octets n) (position : Nat) : o.overwrite position [] = o := by
  apply Octets.ext
  apply List.ext_getElem?
  intro i
  rw [getElem?_overwrite]
  simp

/-- Bytes written behind one another could have been written at once. -/
theorem overwrite_append (o : Octets n) (position : Nat) (front back : List UInt8) :
    o.overwrite position (front ++ back) =
      (o.overwrite position front).overwrite (position + front.length) back := by
  apply Octets.ext
  apply List.ext_getElem?
  intro i
  rw [getElem?_overwrite, getElem?_overwrite, getElem?_overwrite, Option.map_map]
  congr 1
  funext b
  simp only [Function.comp_apply, List.getD_eq_getElem?_getD]
  by_cases hbefore : i < position
  · rw [if_pos hbefore, if_pos (by omega), if_pos hbefore]
  · rw [if_neg hbefore, if_neg hbefore]
    by_cases hfront : i < position + front.length
    · rw [if_pos hfront, List.getElem?_append_left (by omega)]
    · rw [if_neg hfront, List.getElem?_append_right (by omega),
        List.getElem?_eq_none (l := front) (by omega), Nat.sub_sub]
      rfl

theorem bytes_overwrite_zero (o : Octets n) {others : List UInt8} (h : others.length ≤ n) :
    (o.overwrite 0 others).bytes = others ++ o.bytes.drop others.length := by
  apply List.ext_getElem?
  intro i
  rw [getElem?_overwrite]
  simp only [Nat.not_lt_zero, if_false, Nat.sub_zero, List.getD_eq_getElem?_getD]
  by_cases hfront : i < others.length
  · have hi : i < o.bytes.length := by
      rw [o.length_eq]
      omega
    rw [List.getElem?_append_left hfront, List.getElem?_eq_getElem hi,
      List.getElem?_eq_getElem hfront]
    rfl
  · have hle : others.length ≤ i := Nat.not_lt.mp hfront
    rw [List.getElem?_append_right hle, List.getElem?_drop, Nat.add_sub_cancel' hle,
      List.getElem?_eq_none hle]
    simp

end Octets

namespace Source

/-- A request for at most so many bytes, and the answer to it. -/
structure Call where
  asked : Nat
  answer : Except Fault (List UInt8)

def Call.brought (call : Call) : List UInt8 :=
  match call.answer with
  | .ok bytes => bytes
  | .error _ => []

def Call.isInterrupted (call : Call) : Bool :=
  match call.answer with
  | .ok _ => false
  | .error cause => cause.kind = .interrupted

/-- The calls that a list of requests comes to, and the source behind them. -/
def callsOf : List Nat → Source → List Call × Source
  | [], s => ([], s)
  | asked :: rest, s =>
      let (answer, next) := s.read asked
      let (calls, last) := callsOf rest next
      (⟨asked, answer⟩ :: calls, last)

/-- The count is that of the bytes in front that were delivered, or the fault that came before. -/
structure BufferFilling (n : Nat) where
  count : Except Fault Nat
  buffer : Octets n
  calls : List Call
  source : Source

namespace BufferFilling

variable {n : Nat}

def after (call : Call) (next : BufferFilling n) : BufferFilling n :=
  { next with calls := call :: next.calls }

/-- What was delivered to the buffer, without the buffer. -/
def filling (result : BufferFilling n) : Filling where
  bytes := result.calls.flatMap Call.brought
  ending :=
    match result.count with
    | .ok count => if count < n then .ended else .full
    | .error cause => .failed cause
  requests := result.calls.map Call.asked
  source := result.source

end BufferFilling

/-- The first `count` bytes of the buffer are there already. An interruption leaves them as they are,
and the same request is made again. -/
def fillFrom {n : Nat} (count : Nat) (buffer : Octets n) (s : Source) : BufferFilling n :=
  if count < n then
    match _hread : s.read (n - count) with
    | (.ok [], rest) => ⟨.ok count, buffer, [⟨n - count, .ok []⟩], rest⟩
    | (.ok (b :: bs), rest) =>
        (fillFrom (count + (b :: bs).length) (buffer.overwrite count (b :: bs)) rest).after
          ⟨n - count, .ok (b :: bs)⟩
    | (.error cause, rest) =>
        if _hkind : cause.kind = .interrupted then
          (fillFrom count buffer rest).after ⟨n - count, .error cause⟩
        else
          ⟨.error cause, buffer, [⟨n - count, .error cause⟩], rest⟩
  else
    ⟨.ok count, buffer, [], s⟩
termination_by n - count + s.pending
decreasing_by
  · have hle : rest.pending ≤ s.pending := by
      have hpending := pending_read_le (n - count) s
      rwa [_hread] at hpending
    simp only [List.length_cons]
    omega
  · have hlt := pending_read_interrupted _hread _hkind
    omega

def fillBuffer {n : Nat} (buffer : Octets n) (s : Source) : BufferFilling n :=
  s.fillFrom 0 buffer

end Source
end SubtitleExchange
