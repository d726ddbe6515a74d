import SubtitleExchange.Pattern.Cursor
import SubtitleExchange.Pattern.Node
import SubtitleExchange.Text.Cut

/-!
# Escapes

A backslash gives a character by its number, a class of characters, an assertion, or takes the
meaning from a punctuation mark. An escape is read by a cursor that stands at its backslash.
-/

namespace SubtitleExchange
namespace Pattern
namespace Escape

/-!
# Characters by number

Two, four or eight hexadecimal digits follow the letter, or any number of them in braces.
-/

def isHex (c : Char) : Bool :=
  c.isDigit || ('a' ≤ c && c ≤ 'f') || ('A' ≤ c && c ≤ 'F')

def hexDigit (c : Char) : Nat :=
  if c.isDigit then c.toNat - '0'.toNat
  else if 'a' ≤ c then c.toNat - 'a'.toNat + 10
  else c.toNat - 'A'.toNat + 10

def hexNumber (digits : List Char) : Nat :=
  digits.foldl (fun n c => 16 * n + hexDigit c) 0

def charOfHex? (digits : List Char) : Option Char :=
  let n := hexNumber digits
  if n.isValidChar then some (Char.ofNat n) else none

def digitCount : Char → Nat
  | 'x' => 2
  | 'u' => 4
  | _ => 8

def readDigits (cursor : Cursor) : Nat → Checked (List Char × Cursor)
  | 0 => .ok ([], cursor)
  | count + 1 =>
      match cursor.rest with
      | [] => .fail .escapeAtEnd cursor.here
      | c :: _ =>
          if isHex c then do
            let (digits, last) ← readDigits cursor.next count
            return (c :: digits, last)
          else
            .fail .hexDigitInvalid cursor.nextSpan

def readFixed (start : Place) (letter : Char) (cursor : Cursor) : Checked (Literal × Cursor) := do
  let (digits, last) ← readDigits cursor (digitCount letter)
  match charOfHex? digits with
  | some c => return (⟨last.since start, c, letter == 'x'⟩, last)
  | none => .fail .hexNotScalar (last.since cursor.place)

def readBraced (start : Place) (brace : Cursor) : Checked (Literal × Cursor) :=
  let (digits, closing) := brace.next.takeSpaced isHex
  match closing.rest with
  | [] => .fail .escapeAtEnd (closing.since brace.place)
  | '}' :: _ =>
      let last := closing.next
      if digits.isEmpty then
        .fail .hexEmpty (last.since brace.place)
      else
        match charOfHex? digits with
        | some c => .ok (⟨last.since start, c, false⟩, last)
        | none => .fail .hexNotScalar (closing.since brace.advance.place)
  | _ => .fail .hexDigitInvalid closing.nextSpan

def readHex (start : Place) (letter : Char) (cursor : Cursor) : Checked (Literal × Cursor) :=
  let first := cursor.next
  match first.rest with
  | [] => .fail .escapeAtEnd first.here
  | '{' :: _ => readBraced start first
  | _ => readFixed start letter first

/-!
# Properties

A property is one letter, or a name in braces with perhaps a value behind one of three signs.
-/

/-- The parts before and after the first occurrence of an exclamation mark and an equals sign. -/
def cutAtUnequal : List Char → Option (List Char × List Char)
  | [] => none
  | '!' :: '=' :: rest => some ([], rest)
  | c :: rest => (cutAtUnequal rest).map fun (before, after) => (c :: before, after)

def queryOf (name : List Char) : PropertyQuery :=
  let parts := (cutAtUnequal name).or ((Cut.first ':' name).or (Cut.first '=' name))
  match parts with
  | some (property, value) => ⟨String.ofList property, some (String.ofList value)⟩
  | none => ⟨String.ofList name, none⟩

def readProperty (start : Place) (negated : Bool) (letter : Cursor) :
    Checked (PropertyEscape × Cursor) :=
  let first := letter.next
  match first.rest with
  | [] => .fail .escapeAtEnd first.here
  | '{' :: _ =>
      let (name, closing) := first.next.takeSpaced (· != '}')
      match closing.rest with
      | [] => .fail .escapeAtEnd closing.here
      | _ =>
          let last := closing.advance
          .ok (⟨last.since start, negated, queryOf name⟩, last)
  | '\\' :: _ => .fail .propertyEscapeInvalid first.nextSpan
  | c :: _ =>
      let last := first.next
      .ok (⟨last.since start, negated, ⟨String.singleton c, none⟩⟩, last)

/-!
# Word boundaries

Behind the escape of a word boundary, braces hold the name of a special one if a letter or a dash
comes first. Otherwise they belong to a repetition.
-/

def isBoundaryChar (c : Char) : Bool :=
  c.isAlpha || c == '-'

def boundaryNames : List (String × Assertion) :=
  [("start", .wordStart), ("end", .wordEnd), ("start-half", .wordStartHalf),
    ("end-half", .wordEndHalf)]

/-- What the name in braces means and the cursor behind it. Without a name the cursor stays. -/
def readBoundaryName (start : Place) (brace : Cursor) : Checked (Assertion × Cursor) :=
  let first := brace.next
  match first.rest with
  | [] => .fail .wordBoundaryAtEnd (first.since start)
  | c :: _ =>
      if isBoundaryChar c then
        let (name, closing) := first.takeSpaced isBoundaryChar
        match closing.rest with
        | '}' :: _ =>
            match boundaryNames.lookup (String.ofList name) with
            | some assertion => .ok (assertion, closing.advance)
            | none => .fail .wordBoundaryUnknown (closing.since first.place)
        | _ => .fail .wordBoundaryUnclosed (closing.since brace.place)
      else
        .ok (.wordBoundary, brace)

def readBoundary (start : Place) (cursor : Cursor) : Checked (Atom × Cursor) :=
  match cursor.rest with
  | '{' :: _ => do
      let (assertion, last) ← readBoundaryName start cursor
      return (.assertion (last.since start) assertion, last)
  | _ => .ok (.assertion (cursor.since start) .wordBoundary, cursor)

/-!
# Single characters
-/

/-- ASCII characters that mean themselves behind a backslash. -/
def isEscapable (c : Char) : Bool :=
  c.toNat < 0x80 && !c.isAlphanum && c != '<' && c != '>'

def controlOf? : Char → Option Char
  | 'a' => some '\x07'
  | 'f' => some '\x0C'
  | 't' => some '\t'
  | 'n' => some '\n'
  | 'r' => some '\r'
  | 'v' => some '\x0B'
  | _ => none

def assertionOf? : Char → Option Assertion
  | 'A' => some .textStart
  | 'z' => some .textEnd
  | 'B' => some .noWordBoundary
  | '<' => some .wordStart
  | '>' => some .wordEnd
  | _ => none

def shorthandOf? : Char → Option (ShorthandKind × Bool)
  | 'd' => some (.digit, false)
  | 'D' => some (.digit, true)
  | 's' => some (.space, false)
  | 'S' => some (.space, true)
  | 'w' => some (.word, false)
  | 'W' => some (.word, true)
  | _ => none

/-- An escape that ends with the character behind the backslash. -/
def single (span : Span) (c : Char) : Checked Atom :=
  if isEscapable c then
    .ok (.literal ⟨span, c, false⟩)
  else
    match controlOf? c, shorthandOf? c, assertionOf? c with
    | some control, _, _ => .ok (.literal ⟨span, control, false⟩)
    | none, some (kind, negated), _ => .ok (.shorthand ⟨span, kind, negated⟩)
    | none, none, some assertion => .ok (.assertion span assertion)
    | none, none, none => .fail .escapeUnknown span

def read (backslash : Cursor) : Checked (Atom × Cursor) :=
  let start := backslash.place
  let letter := backslash.advance
  let last := letter.advance
  match letter.rest with
  | [] => .fail .escapeAtEnd (letter.since start)
  | c :: _ =>
      if c.isDigit then
        .fail .backreference (last.since start)
      else if c == 'x' || c == 'u' || c == 'U' then do
        let (literal, last) ← readHex start c letter
        return (.literal literal, last)
      else if c == 'p' || c == 'P' then do
        let (property, last) ← readProperty start (c == 'P') letter
        return (.property property, last)
      else if c == 'b' then
        readBoundary start last
      else do
        return (← single (last.since start) c, last)

end Escape
end Pattern
end SubtitleExchange
