import SubtitleExchange.Hex

/-!
# Sets of characters

A set of characters is a list of ranges of code points in increasing order. The code points between
D800 and DFFF are those of surrogates, which are no characters, so the neighbours on both sides of
them are next to each other.
-/

namespace SubtitleExchange

structure CharRange where
  first : Nat
  last : Nat
deriving DecidableEq

namespace CharRange

def maxCodePoint : Nat := 0x10FFFF

def single (c : Nat) : CharRange := ⟨c, c⟩

/-- From one end to the other, whichever comes first. -/
def between (a b : Nat) : CharRange := ⟨min a b, max a b⟩

def contains (range : CharRange) (c : Nat) : Bool :=
  range.first ≤ c && c ≤ range.last

/-- How many code points are in a range. -/
def size (range : CharRange) : Nat :=
  range.last + 1 - range.first

def next (c : Nat) : Nat :=
  if c = 0xD7FF then 0xE000 else c + 1

def previous (c : Nat) : Nat :=
  if c = 0xE000 then 0xD7FF else c - 1

def comesBefore (a b : CharRange) : Bool :=
  a.first < b.first || (a.first == b.first && a.last ≤ b.last)

def shiftUp (distance : Nat) (range : CharRange) : CharRange :=
  ⟨range.first + distance, range.last + distance⟩

def shiftDown (distance : Nat) (range : CharRange) : CharRange :=
  ⟨range.first - distance, range.last - distance⟩

end CharRange

structure CharSet where
  ranges : List CharRange
deriving DecidableEq

namespace CharSet

open CharRange

def empty : CharSet := ⟨[]⟩

def any : CharSet := ⟨[⟨0, maxCodePoint⟩]⟩

def ascii : CharSet := ⟨[⟨0, 0x7F⟩]⟩

def single (c : Nat) : CharSet := ⟨[CharRange.single c]⟩

def isEmpty (set : CharSet) : Bool :=
  set.ranges.isEmpty

def isAscii (set : CharSet) : Bool :=
  set.ranges.all fun range => range.last ≤ 0x7F

def contains (set : CharSet) (c : Nat) : Bool :=
  set.ranges.any fun range => range.contains c

/-- How many code points are in a set. -/
def size (set : CharSet) : Nat :=
  set.ranges.foldl (fun count range => count + range.size) 0

/-!
# Unions

Ranges in any order make a set once they are sorted and those that touch are joined.
-/

def joinFrom (current : CharRange) : List CharRange → List CharRange
  | [] => [current]
  | range :: rest =>
      if range.first ≤ current.last + 1 then
        joinFrom ⟨current.first, max current.last range.last⟩ rest
      else
        current :: joinFrom range rest

def ofRanges (ranges : List CharRange) : CharSet :=
  match ranges.mergeSort CharRange.comesBefore with
  | [] => empty
  | range :: rest => ⟨joinFrom range rest⟩

def ofPairs (pairs : List (Nat × Nat)) : CharSet :=
  ofRanges (pairs.map fun pair => ⟨pair.1, pair.2⟩)

def unionAll (sets : List CharSet) : CharSet :=
  ofRanges (sets.flatMap CharSet.ranges)

def union (a b : CharSet) : CharSet :=
  unionAll [a, b]

/-!
# Intersections
-/

def overlap? (a b : CharRange) : Option CharRange :=
  let first := max a.first b.first
  let last := min a.last b.last
  if first ≤ last then some ⟨first, last⟩ else none

def overlaps : List CharRange → List CharRange → List CharRange
  | a :: as, b :: bs =>
      let rest := if a.last < b.last then overlaps as (b :: bs) else overlaps (a :: as) bs
      (overlap? a b).toList ++ rest
  | _, _ => []
termination_by as bs => as.length + bs.length

def intersection (a b : CharSet) : CharSet :=
  ⟨overlaps a.ranges b.ranges⟩

/-!
# Complements and differences
-/

/-- The gaps behind a code point that are left by ranges behind it. -/
def gapsBehind (c : Nat) : List CharRange → List CharRange
  | [] => if c < maxCodePoint then [between (next c) maxCodePoint] else []
  | range :: rest => between (next c) (previous range.first) :: gapsBehind range.last rest

def complement (set : CharSet) : CharSet :=
  match set.ranges with
  | [] => any
  | range :: rest =>
      let before := if 0 < range.first then [between 0 (previous range.first)] else []
      ⟨before ++ gapsBehind range.last rest⟩

def complementIf (condition : Bool) (set : CharSet) : CharSet :=
  if condition then set.complement else set

def subtract : List CharRange → List CharRange → List CharRange
  | [], _ => []
  | as, [] => as
  | a :: as, b :: bs =>
      if b.last < a.first then
        subtract (a :: as) bs
      else if a.last < b.first then
        a :: subtract as (b :: bs)
      else
        let before := if a.first < b.first then [between a.first (previous b.first)] else []
        let rest :=
          if b.last < a.last then subtract (between (next b.last) a.last :: as) bs
          else subtract as (b :: bs)
        before ++ rest
termination_by as bs => as.length + bs.length

def difference (a b : CharSet) : CharSet :=
  ⟨subtract a.ranges b.ranges⟩

def symmetricDifference (a b : CharSet) : CharSet :=
  (a.union b).difference (a.intersection b)

/-!
# Tables

A set is written as lines of hexadecimal numbers: one number for one code point, two numbers around a
dash for a range, and two numbers around a colon for every second code point of a range, as letters of
both cases mostly take turns.
-/

def hexNumber (digits : List Char) : Nat :=
  digits.foldl (fun n digit => 16 * n + (Hex.value? digit).getD 0) 0

def everySecond (first last : Nat) : List CharRange :=
  (List.range ((last - first) / 2 + 1)).map fun n => CharRange.single (first + 2 * n)

def rangesOfEntry (entry : List Char) : List CharRange :=
  match entry.splitOn '-', entry.splitOn ':' with
  | [first, last], _ => [⟨hexNumber first, hexNumber last⟩]
  | _, [first, last] => everySecond (hexNumber first) (hexNumber last)
  | _, _ => [CharRange.single (hexNumber entry)]

def ofTable (lines : List String) : CharSet :=
  ⟨lines.flatMap fun line => (line.toList.splitOn ' ').flatMap rangesOfEntry⟩

end CharSet

/-- A set of characters with its names, the shorter ones first. -/
structure NamedSet where
  names : List String
  chars : CharSet
deriving DecidableEq

end SubtitleExchange
