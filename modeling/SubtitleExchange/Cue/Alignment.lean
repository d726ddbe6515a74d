/-!
# Alignment

Where a cue stands in the picture. The nine places are numbered row by row from the top left.
-/

namespace SubtitleExchange

inductive Horizontal where
  | left
  | center
  | right
deriving DecidableEq

namespace Horizontal

def all : List Horizontal :=
  [left, center, right]

def index : Horizontal → Nat
  | left => 1
  | center => 2
  | right => 3

def name : Horizontal → String
  | left => "Left"
  | center => "Center"
  | right => "Right"

/-- Codes that name no side, the one for unchanged presentation among them, stand for the centre. -/
def ofJustification (code : UInt8) : Horizontal :=
  if code = 1 then left else if code = 3 then right else center

instance : Ord Horizontal where
  compare a b := compare a.index b.index

end Horizontal

inductive Vertical where
  | top
  | middle
  | bottom
deriving DecidableEq

namespace Vertical

def all : List Vertical :=
  [top, middle, bottom]

def index : Vertical → Nat
  | top => 1
  | middle => 2
  | bottom => 3

def name : Vertical → String
  | top => "Top"
  | middle => "Middle"
  | bottom => "Bottom"

/-- Positions up to 7 are at the bottom and those above 16 at the top. -/
def ofPosition (position : UInt8) : Vertical :=
  if position ≤ 7 then bottom else if position ≤ 16 then middle else top

instance : Ord Vertical where
  compare a b := compare a.index b.index

end Vertical

structure Alignment where
  horizontal : Horizontal
  vertical : Vertical
deriving DecidableEq

namespace Alignment

def centered : Alignment := ⟨.center, .middle⟩

def resolve (justification position : UInt8) : Alignment :=
  ⟨Horizontal.ofJustification justification, Vertical.ofPosition position⟩

def grid (a : Alignment) : Nat :=
  3 * (a.vertical.index - 1) + a.horizontal.index

theorem grid_injective {a b : Alignment} (h : a.grid = b.grid) : a = b := by
  obtain ⟨ah, av⟩ := a
  obtain ⟨bh, bv⟩ := b
  cases ah <;> cases av <;> cases bh <;> cases bv <;>
    simp_all [grid, Horizontal.index, Vertical.index]

end Alignment
end SubtitleExchange
