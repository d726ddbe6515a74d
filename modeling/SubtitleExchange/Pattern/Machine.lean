/-!
# Machines

A machine that searches for a pattern consists of states, and of bytes for the ways between them. Only
their numbers are kept. A machine is assembled state by state, and that fails as soon as it would be
too large.
-/

namespace SubtitleExchange
namespace Pattern

def sizeLimit : Nat := 10485760

def stateSize : Nat := 32

/-- The bytes of one way out of a branch. -/
def branchSize : Nat := 4

/-- The bytes of one transition of a state that has several. -/
def transitionSize : Nat := 8

structure Machine where
  states : Nat
  extra : Nat
deriving DecidableEq

namespace Machine

def empty : Machine := ⟨0, 0⟩

def size (machine : Machine) : Nat :=
  stateSize * machine.states + machine.extra

def fits (machine : Machine) : Bool :=
  machine.size ≤ sizeLimit

def join (a b : Machine) : Machine :=
  ⟨a.states + b.states, a.extra + b.extra⟩

end Machine

/-- Work on a machine. -/
abbrev Assembly := StateT Machine Option

/-- How the last state of a part is left. The way out of a branch takes bytes. -/
inductive Ending where
  | plain
  | branch
deriving DecidableEq

namespace Assembly

/-- Puts a part into the machine if it fits, and gives the number of its first state. -/
def put (part : Machine) : Assembly Nat := fun machine =>
  let grown := machine.join part
  if grown.fits then some (machine.states, grown) else none

def addState (extra : Nat) : Assembly Nat := put ⟨1, extra⟩

def grow (extra : Nat) : Assembly Unit := do
  let _ ← put ⟨0, extra⟩

def leave : Ending → Assembly Unit
  | .plain => pure ()
  | .branch => grow branchSize

/-- So many states in a row. -/
def states (count : Nat) : Assembly Ending := do
  let _ ← put ⟨count, 0⟩
  return .plain

/-!
# Sequences
-/

/-- Parts behind a part with an ending. -/
def inTurn (ending : Ending) : List (Assembly Ending) → Assembly Ending
  | [] => pure ending
  | part :: rest => do
      let next ← part
      leave ending
      inTurn next rest

def sequence : List (Assembly Ending) → Assembly Ending
  | [] => states 1
  | part :: rest => do inTurn (← part) rest

/-- The same part several times behind a part with an ending. -/
def again (part : Assembly Ending) (ending : Ending) : Nat → Assembly Ending
  | 0 => pure ending
  | count + 1 => do
      let next ← part
      leave ending
      again part next count

/-- The same part several times in turn. -/
def times (part : Assembly Ending) : Nat → Assembly Ending
  | 0 => states 1
  | count + 1 => do again part (← part) count

/-!
# Choices
-/

def furtherChoices : List (Assembly Ending) → Assembly Unit
  | [] => pure ()
  | part :: rest => do
      let ending ← part
      grow branchSize
      leave ending
      furtherChoices rest

/-- A branch into parts, which all lead to one state. -/
def choice : List (Assembly Ending) → Assembly Ending
  | [] => states 1
  | [part] => part
  | first :: second :: rest => do
      let firstEnding ← first
      let secondEnding ← second
      let _ ← states 2
      grow (2 * branchSize)
      leave firstEnding
      leave secondEnding
      furtherChoices rest
      return .plain

/-!
# Repetitions

A part that is repeated ends in a branch, which leads back to it or on. Where the part may take
nothing, another branch keeps the machine from going around without end.
-/

def atMostOnce (part : Assembly Ending) : Assembly Ending := do
  let _ ← states 1
  let ending ← part
  let _ ← states 1
  grow (2 * branchSize)
  leave ending
  return .plain

/-- A part and the branch behind it that leads back. -/
def loop (part : Assembly Ending) : Assembly Ending := do
  let ending ← part
  let _ ← states 1
  grow branchSize
  leave ending
  return .branch

def anyTimes (takesSome : Bool) (part : Assembly Ending) : Assembly Ending := do
  if takesSome then
    let _ ← states 1
    let ending ← part
    grow branchSize
    leave ending
    return .branch
  else
    let _ ← loop part
    let _ ← states 2
    grow (3 * branchSize)
    return .plain

def atLeast (takesSome : Bool) (part : Assembly Ending) : Nat → Assembly Ending
  | 0 => anyTimes takesSome part
  | 1 => loop part
  | count + 1 => do
      let ending ← times part count
      let last ← loop part
      leave ending
      return last

/-- A part so many times more behind a part with an ending, with a branch before each time. -/
def upTo (part : Assembly Ending) (ending : Ending) : Nat → Assembly Ending
  | 0 => pure ending
  | count + 1 => do
      let _ ← states 1
      let next ← part
      grow (2 * branchSize)
      leave ending
      upTo part next count

def between (part : Assembly Ending) (least most : Nat) : Assembly Ending := do
  let ending ← times part least
  let _ ← states 1
  let last ← upTo part ending (most - least)
  leave last
  return .plain

end Assembly
end Pattern
end SubtitleExchange
