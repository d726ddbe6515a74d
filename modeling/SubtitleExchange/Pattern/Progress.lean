/-!
# Reading until nothing is left

What is read piece by piece is read by steps. A step is done with a value or leaves a new state, and
what is left to read in that must be less than before for another step to follow.
-/

namespace SubtitleExchange
namespace Pattern

inductive Step (σ α : Type) where
  | more (state : σ)
  | done (value : α)

namespace Step

variable {σ α ε : Type}

/-- Takes steps until one is done, and finishes if nothing is left before that. -/
def run (left : σ → Nat) (step : σ → Except ε (Step σ α)) (finish : σ → Except ε α) (state : σ) :
    Except ε α :=
  if left state = 0 then
    finish state
  else
    match step state with
    | .error error => .error error
    | .ok (.done value) => .ok value
    | .ok (.more next) =>
        if left next < left state then run left step finish next else finish next
termination_by left state

end Step
end Pattern
end SubtitleExchange
