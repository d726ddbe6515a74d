import SubtitleExchange.Decimal
import SubtitleExchange.Pattern.Cursor
import SubtitleExchange.Pattern.Node

/-!
# Repetitions

A repetition follows what it repeats. It is one sign, or a count in braces, and a question mark behind
it makes it prefer less.
-/

namespace SubtitleExchange
namespace Pattern
namespace Repetition

/-- The node to repeat. -/
def target (cursor : Cursor) : Option Node → Checked Node
  | some node =>
      if node.isRepeatable then .ok node else .fail .repetitionOfNothing cursor.here
  | none => .fail .repetitionOfNothing cursor.here

/-- A question mark that comes next belongs to the repetition before the cursor. -/
def finish (body : Node) (count : Count) (cursor : Cursor) : Node × Cursor :=
  let isLazy := cursor.startsWith ['?']
  let last := if isLazy then cursor.advance else cursor
  (.repetition (last.since body.span.start) count isLazy body, last)

/-!
# Signs
-/

def countOfSign? : Char → Option Count
  | '?' => some ⟨0, some 1⟩
  | '*' => some ⟨0, none⟩
  | '+' => some ⟨1, none⟩
  | _ => none

def readSign (body : Option Node) (count : Count) (sign : Cursor) : Checked (Node × Cursor) := do
  let body ← target sign body
  return finish body count sign.advance

/-!
# Counts

A bound is a decimal number of at most 32 bits. Blanks may stand around it.
-/

def skipBlanks (cursor : Cursor) : Cursor :=
  (cursor.takeWhile Blank.isBlank).2

/-- The bound, if there is a good one, and the cursor behind it. -/
def readBound (cursor : Cursor) : Checked Nat × Cursor :=
  let first := skipBlanks cursor
  let (digits, behind) := first.takeSpaced Char.isDigit
  let span := behind.since first.place
  let bound := match Decimal.value? digits with
    | none => .fail .countEmpty span
    | some n => if n < UInt32.size then .ok n else .fail .decimalInvalid span
  (bound, skipBlanks behind)

/-- What is counted: the least and the most, and the cursor at the closing brace. -/
def readBounds (brace : Cursor) : Checked (Count × Cursor) := do
  let start := brace.place
  let first := brace.next
  if first.rest.isEmpty then
    .fail .countUnclosed (first.since start)
  else
    let (least, behind) := readBound first
    match behind.rest with
    | [] => .fail .countUnclosed (behind.since start)
    | ',' :: _ =>
        let second := behind.next
        match second.rest with
        | [] => .fail .countUnclosed (second.since start)
        | '}' :: _ => return (⟨← least, none⟩, second)
        | _ =>
            let least ← least
            let (most, last) := readBound second
            return (⟨least, some (← most)⟩, last)
    | _ =>
        let exact ← least
        return (⟨exact, some exact⟩, behind)

def isReversed (count : Count) : Bool :=
  match count.most with
  | some most => most < count.least
  | none => false

def readCounted (body : Option Node) (brace : Cursor) : Checked (Node × Cursor) := do
  let body ← target brace body
  let (count, closing) ← readBounds brace
  if closing.startsWith ['}'] then
    let (repetition, last) := finish body count closing.next
    if isReversed count then
      .fail .countReversed (last.since brace.place)
    else
      return (repetition, last)
  else
    .fail .countUnclosed (closing.since brace.place)

end Repetition
end Pattern
end SubtitleExchange
