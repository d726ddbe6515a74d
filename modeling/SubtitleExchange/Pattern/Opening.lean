import SubtitleExchange.Pattern.Cursor
import SubtitleExchange.Pattern.Node
import SubtitleExchange.Text.Letter

/-!
# Opening groups

An opening parenthesis begins a group that captures, by number or by name, or one that only groups
and may set flags for what is in it. Flags in parentheses of their own are set for all that follows
in the same group.
-/

namespace SubtitleExchange
namespace Pattern
namespace Opening

/-!
# Names
-/

structure CaptureName where
  name : List Char
  span : Span
deriving DecidableEq

/-- A name starts with a letter or an underscore. Digits, dots and brackets may follow. -/
def isNameChar (isFirst : Bool) (c : Char) : Bool :=
  if isFirst then
    c == '_' || Letter.isLetter c
  else
    c == '_' || c == '.' || c == '[' || c == ']' || Letter.isLetter c || Letter.isNumeric c

def takeName (cursor : Cursor) : List Char × Cursor :=
  match cursor.rest with
  | [] => ([], cursor)
  | c :: _ =>
      if isNameChar true c then
        let (others, last) := cursor.advance.takeWhile (isNameChar false)
        (c :: others, last)
      else
        ([], cursor)

def readName (cursor : Cursor) : Checked (CaptureName × Cursor) :=
  let (name, closing) := takeName cursor
  match closing.rest with
  | [] => .fail .groupNameUnclosed closing.here
  | '>' :: _ =>
      if name.isEmpty then
        .fail .groupNameEmpty cursor.here
      else
        .ok (⟨name, closing.since cursor.place⟩, closing.advance)
  | _ => .fail .groupNameInvalid closing.nextSpan

/-!
# Flags
-/

/-- A flag or the sign that turns the following flags off, as it was met. -/
structure FlagItem where
  char : Char
  span : Span
deriving DecidableEq

def isNegation (item : FlagItem) : Bool :=
  item.char == '-'

def isFlag (c : Char) : Bool :=
  ['i', 'm', 's', 'U', 'u', 'R', 'x'].contains c

/-- Whether a flag stands before the negation, which turns it on, or behind it. -/
def setting (items : List FlagItem) (flag : Char) : Option Bool :=
  if (items.takeWhile fun item => !isNegation item).any fun item => item.char == flag then
    some true
  else if items.any fun item => item.char == flag then
    some false
  else
    none

def flagsOf (items : List FlagItem) : Flags where
  unicode := setting items 'u'
  ignoreCase := setting items 'i'
  multiLine := setting items 'm'
  dotAll := setting items 's'
  swapGreed := setting items 'U'
  carriageReturn := setting items 'R'
  freeSpacing := setting items 'x'

/-- The next item, if it may stand behind the ones before. -/
def addItem (items : List FlagItem) (item : FlagItem) : Checked (List FlagItem) :=
  if isNegation item || isFlag item.char then
    match items.find? fun other => other.char == item.char with
    | some other =>
        if isNegation item then
          .failAgain .negationRepeated item.span other.span
        else
          .failAgain .flagRepeated item.span other.span
    | none => .ok (items ++ [item])
  else
    .fail .flagUnknown item.span

/-- The items up to a colon or a closing parenthesis, from a place and a rest on. -/
def readItems (items : List FlagItem) (place : Place) :
    List Char → Checked (List FlagItem × Char × List Char × Place)
  | [] => .fail .flagAtEnd (Span.empty place)
  | c :: rest =>
      if c = ':' ∨ c = ')' then
        .ok (items, c, rest, place.after c)
      else
        match addItem items ⟨c, ⟨place, place.after c⟩⟩ with
        | .error fault => .error fault
        | .ok items => readItems items (place.after c) rest

/-!
# Openings
-/

inductive Opened where
  | capture (name : Option CaptureName)
  | group (flags : Flags)
  | directive (flags : Flags)
deriving DecidableEq

def lookArounds : List (List Char) :=
  [['?', '='], ['?', '!'], ['?', '<', '='], ['?', '<', '!']]

def nameSigns : List (List Char) :=
  [['?', 'P', '<'], ['?', '<']]

/-- Flags are read behind their question mark. Without any, parentheses hold a question mark that
repeats nothing. -/
def readFlags (question : Cursor) : Checked (Opened × Cursor) := do
  let first := question.advance
  let (items, closing, rest, place) ← readItems [] first.place first.rest
  let last := { question with rest := rest, place := place }
  match items.getLast? with
  | some item =>
      if isNegation item then
        .fail .negationDangling item.span
      else if closing = ':' then
        return (.group (flagsOf items), last)
      else
        return (.directive (flagsOf items), last)
  | none =>
      if closing = ':' then
        return (.group Flags.none, last)
      else
        .fail .repetitionOfNothing question.here

def read (parenthesis : Cursor) : Checked (Opened × Cursor) :=
  let first := parenthesis.next
  match lookArounds.find? first.startsWith, nameSigns.find? first.startsWith, first.rest with
  | some sign, _, _ => .fail .lookAround ((first.past sign).since parenthesis.place)
  | none, some sign, _ => do
      let (name, last) ← readName (first.past sign)
      return (.capture (some name), last)
  | none, none, '?' :: rest =>
      if rest.isEmpty then
        .fail .groupUnclosed parenthesis.nextSpan
      else
        readFlags first
  | none, none, _ => .ok (.capture none, first)

end Opening
end Pattern
end SubtitleExchange
