import Std.Data.HashMap
import SubtitleExchange.Pattern.Machine

/-!
# Shared states

States with the same ways out are there once as long as the earlier one is remembered. A state is
remembered in a slot that its ways out choose, and a later state may take the slot.
-/

namespace SubtitleExchange
namespace Pattern

structure Slots where
  count : Nat
  entries : Std.HashMap Nat (List Nat × Nat)

namespace Slots

def empty (count : Nat) : Slots := ⟨count, ∅⟩

/-- The FNV-1a hash of numbers. -/
def hash (key : List Nat) : UInt64 :=
  key.foldl (fun hash n => (hash ^^^ UInt64.ofNat n) * 1099511628211) 14695981039346656037

def slot (slots : Slots) (key : List Nat) : Nat :=
  (hash key).toNat % slots.count

/-- The state with these ways out, if its slot has not been taken. -/
def find? (slots : Slots) (key : List Nat) : Option Nat :=
  match slots.entries[slots.slot key]? with
  | some (other, state) => if other = key then some state else none
  | none => none

def insert (slots : Slots) (key : List Nat) (state : Nat) : Slots :=
  { slots with entries := slots.entries.insert (slots.slot key) (key, state) }

end Slots

/-- Work on a machine whose states are shared. -/
abbrev Sharing := StateT Slots Assembly

namespace Sharing

/-- The state with these ways out, which is added if it is not remembered. -/
def share (key : List Nat) (extra : Nat) : Sharing Nat := do
  match (← get).find? key with
  | some state => return state
  | none =>
      let state ← (Assembly.addState extra : Assembly Nat)
      modify fun slots => slots.insert key state
      return state

/-- Work that starts with no state remembered. -/
def alone {α : Type} (count : Nat) (work : Sharing α) : Assembly α := do
  return (← work.run (.empty count)).1

end Sharing
end Pattern
end SubtitleExchange
