import SubtitleExchange.Pattern.Escape
import SubtitleExchange.Pattern.Progress

/-!
# Sets in brackets

A set is a union of characters, ranges, classes and further sets, or an operation on such unions. Of
several operations, the one on the left comes first. Dashes at the start stand for themselves, and
so does a closing bracket there.
-/

namespace SubtitleExchange
namespace Pattern
namespace Bracket

/-- A set whose closing bracket is still to come. -/
structure OpenSet where
  opening : Span
  negated : Bool
  pending : Option (SetOperator × SetNode)
  unionSpan : Span
  latest : List SetNode

namespace OpenSet

def push (set : OpenSet) (part : SetNode) : OpenSet :=
  { set with
    unionSpan := if set.latest.isEmpty then part.span else set.unionSpan.upTo part.span
    latest := part :: set.latest }

def content (set : OpenSet) : SetNode :=
  let right := SetNode.ofParts set.unionSpan set.latest.reverse
  match set.pending with
  | none => right
  | some (operator, left) => .operation (left.span.upTo right.span) operator left right

/-- What was read so far becomes the left side of an operation. -/
def operate (set : OpenSet) (operator : SetOperator) (behind : Cursor) : OpenSet :=
  { set with
    pending := some (operator, set.content)
    unionSpan := behind.here
    latest := [] }

def unclosed {α : Type} (set : OpenSet) : Checked α :=
  .fail .setUnclosed set.opening

end OpenSet

/-!
# Opening
-/

def readDashes (cursor : Cursor) : List SetNode × Cursor :=
  match _h : cursor.rest with
  | '-' :: _ =>
      let (dashes, last) := readDashes cursor.next
      (.literal ⟨cursor.nextSpan, '-', false⟩ :: dashes, last)
  | _ => ([], cursor)
termination_by cursor.rest.length
decreasing_by exact Cursor.length_next_lt _h

/-- The sign of negation behind an opening bracket, and the cursor behind both. -/
def readNegation (bracket : Cursor) : Checked (Bool × Cursor) :=
  let start := bracket.place
  let first := bracket.next
  match first.rest with
  | [] => .fail .setUnclosed (first.since start)
  | '^' :: _ =>
      let second := first.next
      if second.rest.isEmpty then
        .fail .setUnclosed (second.since start)
      else
        .ok (true, second)
  | _ => .ok (false, first)

def readOpening (bracket : Cursor) : Checked (OpenSet × Cursor) := do
  let start := bracket.place
  let (negated, first) ← readNegation bracket
  let (dashes, last) := readDashes first
  let opened := fun (last : Cursor) (parts : List SetNode) =>
    parts.foldl OpenSet.push ⟨last.since start, negated, none, first.here, []⟩
  match dashes, last.rest with
  | _ :: _, [] => .fail .setUnclosed (Span.empty start)
  | [], ']' :: _ =>
      let behind := last.next
      if behind.rest.isEmpty then
        .fail .setUnclosed (behind.since start)
      else
        .ok (opened behind [.literal ⟨last.nextSpan, ']', false⟩], behind)
  | _, _ => .ok (opened last dashes, last)

/-!
# Parts of a union
-/

/-- A class of ASCII characters by its name between colons. -/
def readNamed? (bracket : Cursor) : Option (SetNode × Cursor) :=
  if bracket.startsWith ['[', ':'] then
    let first := bracket.past ['[', ':']
    let negated := first.startsWith ['^']
    let (name, closing) := (if negated then first.advance else first).takeWhile (· != ':')
    if closing.startsWith [':', ']'] then
      let last := closing.past [':', ']']
      (NamedClass.ofName? (String.ofList name)).map fun named =>
        (.named (last.since bracket.place) negated named, last)
    else
      none
  else
    none

def readItem (cursor : Cursor) : Checked (Atom × Cursor) :=
  match cursor.rest with
  | '\\' :: _ => Escape.read cursor
  | c :: _ => .ok (.literal ⟨cursor.nextSpan, c, false⟩, cursor.advance)
  | [] => .fail .setUnclosed cursor.here

def asPart : Atom → Checked SetNode
  | .literal literal => .ok (.literal literal)
  | .shorthand shorthand => .ok (.shorthand shorthand)
  | .property property => .ok (.property property)
  | other => .fail .setEscapeInvalid other.span

def asBoundary : Atom → Checked Literal
  | .literal literal => .ok literal
  | other => .fail .rangeBoundaryInvalid other.span

def asRange (first last : Atom) : Checked SetNode := do
  let span := first.span.upTo last.span
  let first ← asBoundary first
  let last ← asBoundary last
  if first.char ≤ last.char then
    return .range span first last
  else
    .fail .rangeReversed span

/-- A dash joins two characters to a range unless a closing bracket or a dash comes next. -/
def joinsRange (cursor : Cursor) : Bool :=
  cursor.startsWith ['-'] && cursor.peek? != some ']' && cursor.peek? != some '-'

def readPart (set : OpenSet) (cursor : Cursor) : Checked (SetNode × Cursor) := do
  let (first, last) ← readItem cursor
  let behind := last.skip
  if behind.rest.isEmpty then
    set.unclosed
  else if joinsRange behind then
    let second := behind.next
    if second.rest.isEmpty then
      set.unclosed
    else
      let (other, last) ← readItem second
      return (← asRange first other, last)
  else
    return (← asPart first, behind)

/-!
# Whole sets
-/

structure State where
  cursor : Cursor
  current : OpenSet
  enclosing : List OpenSet

namespace State

def left (state : State) : Nat :=
  state.cursor.left

end State

def operators : List (List Char × SetOperator) :=
  [(['&', '&'], .intersection), (['-', '-'], .difference), (['~', '~'], .symmetricDifference)]

def readOperator? (cursor : Cursor) : Option (SetOperator × Cursor) :=
  (operators.find? fun entry => cursor.startsWith entry.1).map fun entry =>
    (entry.2, cursor.past entry.1)

def openNested (state : State) (bracket : Cursor) : Checked State :=
  match readNamed? bracket with
  | some (named, last) => .ok { state with cursor := last, current := state.current.push named }
  | none => do
      let (inner, last) ← readOpening bracket
      return ⟨last, inner, state.current :: state.enclosing⟩

def close (state : State) (bracket : Cursor) : Step State (Node × Cursor) :=
  let set := state.current
  let last := bracket.advance
  let span := last.since set.opening.start
  match state.enclosing with
  | [] => .done (.set span set.negated set.content, last)
  | outer :: others => .more ⟨last, outer.push (.nested span set.negated set.content), others⟩

def step (state : State) : Checked (Step State (Node × Cursor)) :=
  let cursor := state.cursor.skip
  match cursor.rest with
  | [] => .ok (.more { state with cursor := cursor })
  | '[' :: _ => return .more (← openNested state cursor)
  | ']' :: _ => .ok (close state cursor)
  | _ =>
      match readOperator? cursor with
      | some (operator, last) =>
          .ok (.more { state with cursor := last, current := state.current.operate operator last })
      | none => do
          let (part, last) ← readPart state.current cursor
          return .more { state with cursor := last, current := state.current.push part }

/-- Reads a set from its opening bracket on. -/
def read (bracket : Cursor) : Checked (Node × Cursor) := do
  let (set, last) ← readOpening bracket
  Step.run State.left step (fun state => state.current.unclosed) ⟨last, set, []⟩

end Bracket
end Pattern
end SubtitleExchange
