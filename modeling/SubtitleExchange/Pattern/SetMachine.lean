import SubtitleExchange.Character.Encoding
import SubtitleExchange.Pattern.Slots

/-!
# Machines of sets

ASCII characters take one state for all of them. Other sets take states for each byte: forward, states
that agree in all ways out are shared, and backward, states that agree in the last one that they lead
to.
-/

namespace SubtitleExchange
namespace Pattern
namespace SetMachine

/-- The states behind the first bytes of encodings, which have so many bytes left at most. -/
def behind (target : Nat) : Nat → List (List ByteRange) → Sharing Nat
  | 0, _ => return target
  | count + 1, encodings => do
      let groups := encodings.splitBy fun a b => a.head? == b.head?
      let ways ← groups.mapM fun group =>
        match group with
        | (range :: _) :: _ => do
            let rests := group.map List.tail
            let next ← if rests.all List.isEmpty then pure target else behind target count rests
            return [range.first, range.last, next]
        | _ => return []
      Sharing.share ways.flatten (transitionSize * groups.length)

def forwardSlots : Nat := 10000

/-- A character has four bytes at most. -/
def forward (set : CharSet) : Assembly Ending := do
  let target ← Assembly.addState 0
  let _ ← Sharing.alone forwardSlots (behind target 4 set.encodings)
  return .plain

/-- The states for the bytes of an encoding before a state, last byte first. -/
def before (state : Nat) : List ByteRange → Sharing Nat
  | [] => return state
  | range :: rest => do
      before (← Sharing.share [state, range.first, range.last] 0) rest

def backwardSlots : Nat := 1000

def addEach (target : Nat) : List (List ByteRange) → Sharing Unit
  | [] => return
  | encoding :: rest => do
      let _ ← before target encoding
      (Assembly.grow branchSize : Assembly Unit)
      addEach target rest

def backward (set : CharSet) : Assembly Ending := do
  let _ ← Assembly.addState 0
  let target ← Assembly.addState 0
  Sharing.alone backwardSlots (addEach target set.encodings)
  return .plain

def ofAscii (set : CharSet) : Assembly Ending := do
  let _ ← Assembly.put ⟨2, transitionSize * set.ranges.length⟩
  return .plain

def assemble (isBackward : Bool) (set : CharSet) : Assembly Ending :=
  if set.isAscii then ofAscii set
  else if isBackward then backward set
  else forward set

end SetMachine
end Pattern
end SubtitleExchange
