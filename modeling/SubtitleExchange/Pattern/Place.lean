/-!
# Places in a pattern

A place is counted in characters from the start of a pattern, and by line and column from one on. A
span lies between two places.
-/

namespace SubtitleExchange
namespace Pattern

structure Place where
  offset : Nat
  line : Nat
  column : Nat
deriving DecidableEq

namespace Place

def start : Place := ⟨0, 1, 1⟩

def after (place : Place) (c : Char) : Place :=
  if c = '\n' then
    ⟨place.offset + 1, place.line + 1, 1⟩
  else
    ⟨place.offset + 1, place.line, place.column + 1⟩

def afterAll (place : Place) (cs : List Char) : Place :=
  cs.foldl after place

end Place

structure Span where
  start : Place
  stop : Place
deriving DecidableEq

namespace Span

/-- The span of nothing at a place. -/
def empty (place : Place) : Span := ⟨place, place⟩

def isOneLine (span : Span) : Bool :=
  span.start.line == span.stop.line

def width (span : Span) : Nat :=
  span.stop.column - span.start.column

/-- Spans are ordered by their starts, and those that start together by their stops. -/
def precedes (a b : Span) : Bool :=
  a.start.offset < b.start.offset
    || (a.start.offset == b.start.offset && a.stop.offset ≤ b.stop.offset)

/-- From the start of one span to the stop of another. -/
def upTo (a b : Span) : Span := ⟨a.start, b.stop⟩

end Span
end Pattern
end SubtitleExchange
