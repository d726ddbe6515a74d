import SubtitleExchange.Pattern.Bracket
import SubtitleExchange.Pattern.Opening
import SubtitleExchange.Pattern.Repetition

/-!
# Reading patterns

A pattern is a choice between sequences, in which groups hold further choices. The tree is built from
left to right, with one level for each group that is still open.
-/

namespace SubtitleExchange
namespace Pattern

/-- A choice that is still being read. Its parts are held latest first. -/
structure Level where
  start : Place
  choices : List Node
  sequenceStart : Place
  parts : List Node

namespace Level

def ofPlace (place : Place) : Level :=
  ⟨place, [], place, []⟩

def push (level : Level) (part : Node) : Level :=
  { level with parts := part :: level.parts }

def sequence (level : Level) (stop : Place) : Node :=
  .ofParts ⟨level.sequenceStart, stop⟩ level.parts.reverse

/-- The sequence before a bar is complete, and another one begins behind it. -/
def bar (level : Level) (bar : Cursor) : Level :=
  { level with
    choices := level.sequence bar.place :: level.choices
    sequenceStart := bar.advance.place
    parts := [] }

def close (level : Level) (stop : Place) : Node :=
  match level.choices with
  | [] => level.sequence stop
  | choices => .choice ⟨level.start, stop⟩ (choices.reverse ++ [level.sequence stop])

end Level

/-- A group whose closing parenthesis is still to come, and what stood before it. -/
structure OpenGroup where
  parenthesis : Span
  flags : Option Flags
  freeSpacing : Bool
  before : Level

namespace OpenGroup

/-- The group around a body, up to a place. A group without flags of its own captures. -/
def node (group : OpenGroup) (body : Node) (stop : Place) : Node :=
  let span : Span := ⟨group.parenthesis.start, stop⟩
  match group.flags with
  | some flags => .group span flags body
  | none => .capture span body

end OpenGroup

namespace Reading

structure State where
  cursor : Cursor
  level : Level
  groups : List OpenGroup
  names : List Opening.CaptureName

namespace State

def left (state : State) : Nat :=
  state.cursor.left

def start (pattern : List Char) : State :=
  ⟨.ofPattern pattern, .ofPlace Place.start, [], []⟩

def push (state : State) (part : Node) (last : Cursor) : State :=
  { state with cursor := last, level := state.level.push part }

end State

/-- No two groups have one name. -/
def addName (names : List Opening.CaptureName) :
    Option Opening.CaptureName → Checked (List Opening.CaptureName)
  | none => .ok names
  | some name =>
      match names.find? fun other => other.name == name.name with
      | some other => .failAgain .groupNameRepeated name.span other.span
      | none => .ok (name :: names)

def enter (state : State) (parenthesis : Cursor) (flags : Option Flags) (last : Cursor) : State :=
  let group : OpenGroup :=
    ⟨parenthesis.nextSpan, flags, parenthesis.freeSpacing, state.level⟩
  let spacing := (flags.bind Flags.freeSpacing).getD parenthesis.freeSpacing
  { state with
    cursor := { last with freeSpacing := spacing }
    level := .ofPlace last.place
    groups := group :: state.groups }

def openGroup (state : State) (parenthesis : Cursor) : Checked State := do
  let (opened, last) ← Opening.read parenthesis
  match opened with
  | .capture name =>
      let names ← addName state.names name
      return enter { state with names := names } parenthesis none last
  | .group flags => return enter state parenthesis (some flags) last
  | .directive flags =>
      let spacing := flags.freeSpacing.getD parenthesis.freeSpacing
      return state.push (.flags (last.since parenthesis.place) flags)
        { last with freeSpacing := spacing }

def closeGroup (state : State) (parenthesis : Cursor) : Checked State :=
  match state.groups with
  | [] => .fail .groupUnopened parenthesis.nextSpan
  | group :: others =>
      let last := parenthesis.advance
      let node := group.node (state.level.close parenthesis.place) last.place
      .ok { state with
        cursor := { last with freeSpacing := group.freeSpacing }
        level := group.before.push node
        groups := others }

/-- The state without the latest part, and that part. -/
def takeLatest (state : State) : Option Node × State :=
  match state.level.parts with
  | [] => (none, state)
  | part :: parts => (some part, { state with level := { state.level with parts := parts } })

def repeated (state : State) (read : Option Node → Checked (Node × Cursor)) : Checked State := do
  let (latest, others) := takeLatest state
  let (node, last) ← read latest
  return others.push node last

def readAtom (cursor : Cursor) (c : Char) : Checked (Atom × Cursor) :=
  let last := cursor.advance
  match c with
  | '\\' => Escape.read cursor
  | '.' => .ok (.dot cursor.nextSpan, last)
  | '^' => .ok (.assertion cursor.nextSpan .lineStart, last)
  | '$' => .ok (.assertion cursor.nextSpan .lineEnd, last)
  | c => .ok (.literal ⟨cursor.nextSpan, c, false⟩, last)

/-- One step, at the character that comes next. -/
def stepAt (state : State) (cursor : Cursor) (c : Char) : Checked State :=
  match c, Repetition.countOfSign? c with
  | _, some count => repeated state fun latest => Repetition.readSign latest count cursor
  | '{', none => repeated state fun latest => Repetition.readCounted latest cursor
  | '(', none => openGroup state cursor
  | ')', none => closeGroup state cursor
  | '|', none => .ok { state with cursor := cursor.advance, level := state.level.bar cursor }
  | '[', none => do
      let (node, last) ← Bracket.read cursor
      return state.push node last
  | c, none => do
      let (atom, last) ← readAtom cursor c
      return state.push (.atom atom) last

def step (state : State) : Checked (Step State Node) :=
  let cursor := state.cursor.skip
  match cursor.rest with
  | [] => .ok (.more { state with cursor := cursor })
  | c :: _ => (stepAt state cursor c).map .more

def finish (state : State) : Checked Node :=
  match state.groups with
  | [] => .ok (state.level.close state.cursor.place)
  | group :: _ => .fail .groupUnclosed group.parenthesis

end Reading

/-- The tree of a pattern, or the first fault in it. -/
def Node.ofPattern (pattern : List Char) : Checked Node :=
  Step.run Reading.State.left Reading.step Reading.finish (Reading.State.start pattern)

end Pattern
end SubtitleExchange
