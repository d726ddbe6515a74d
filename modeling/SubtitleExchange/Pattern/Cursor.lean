import SubtitleExchange.Pattern.Place
import SubtitleExchange.Text.Blank

/-!
# Reading a pattern from left to right

A cursor holds what is left of a pattern, the place where that begins, and the size of the whole
pattern. With free spacing, blanks count for nothing, nor does a comment, which runs from a number
sign to the end of its line. No step of a cursor makes the rest longer, and a step over a character
makes it shorter.
-/

namespace SubtitleExchange
namespace Pattern

structure Cursor where
  rest : List Char
  place : Place
  freeSpacing : Bool
  size : Nat
deriving DecidableEq

namespace Cursor

def ofPattern (pattern : List Char) : Cursor :=
  ⟨pattern, Place.start, false, pattern.length⟩

/-- How many characters are left, told from the place alone. -/
def left (cursor : Cursor) : Nat :=
  cursor.size - cursor.place.offset

def here (cursor : Cursor) : Span :=
  Span.empty cursor.place

/-- Over the next character, whatever it is. -/
def advance (cursor : Cursor) : Cursor :=
  match cursor.rest with
  | [] => cursor
  | c :: rest => { cursor with rest := rest, place := cursor.place.after c }

/-- The span of the next character. -/
def nextSpan (cursor : Cursor) : Span :=
  ⟨cursor.place, cursor.advance.place⟩

/-- From an earlier place up to the cursor. -/
def since (cursor : Cursor) (start : Place) : Span :=
  ⟨start, cursor.place⟩

/-!
# Blanks and comments
-/

def skipFrom (inComment : Bool) (place : Place) : List Char → List Char × Place
  | [] => ([], place)
  | c :: rest =>
      if inComment then
        skipFrom (c != '\n') (place.after c) rest
      else if c = '#' then
        skipFrom true (place.after c) rest
      else if Blank.isBlank c then
        skipFrom false (place.after c) rest
      else
        (c :: rest, place)

def skip (cursor : Cursor) : Cursor :=
  if cursor.freeSpacing then
    let (rest, place) := skipFrom false cursor.place cursor.rest
    { cursor with rest := rest, place := place }
  else
    cursor

/-- Over the next character and over what counts for nothing after it. -/
def next (cursor : Cursor) : Cursor :=
  cursor.advance.skip

theorem length_skipFrom_le (inComment : Bool) (place : Place) (cs : List Char) :
    (skipFrom inComment place cs).1.length ≤ cs.length := by
  fun_induction skipFrom inComment place cs <;> simp_all <;> omega

theorem length_skip_le (cursor : Cursor) : cursor.skip.rest.length ≤ cursor.rest.length := by
  unfold skip
  split
  · exact length_skipFrom_le false cursor.place cursor.rest
  · exact Nat.le_refl _

theorem rest_advance {cursor : Cursor} {c : Char} {cs : List Char} (h : cursor.rest = c :: cs) :
    cursor.advance.rest = cs := by
  unfold advance
  split
  · simp_all
  · simp_all

theorem length_next_lt {cursor : Cursor} {c : Char} {cs : List Char} (h : cursor.rest = c :: cs) :
    cursor.next.rest.length < cursor.rest.length := by
  have hskip := length_skip_le cursor.advance
  rw [rest_advance h] at hskip
  rw [h, List.length_cons, next]
  omega

/-!
# Runs of characters
-/

def startsWith (cursor : Cursor) (cs : List Char) : Bool :=
  cs.isPrefixOf cursor.rest

/-- Past as many characters as a list has. -/
def past (cursor : Cursor) (cs : List Char) : Cursor :=
  { cursor with rest := cursor.rest.drop cs.length, place := cursor.place.afterAll cs }

/-- The longest run of accepted characters, and the cursor behind it. -/
def takeWhile (accept : Char → Bool) (cursor : Cursor) : List Char × Cursor :=
  let taken := cursor.rest.takeWhile accept
  (taken, cursor.past taken)

/-- As `takeWhile`, but what counts for nothing may stand between and behind the characters. -/
def takeSpaced (accept : Char → Bool) (cursor : Cursor) : List Char × Cursor :=
  match _h : cursor.rest with
  | [] => ([], cursor)
  | c :: _ =>
      if accept c then
        let (taken, last) := takeSpaced accept cursor.next
        (c :: taken, last)
      else
        ([], cursor)
termination_by cursor.rest.length
decreasing_by exact length_next_lt _h

/-!
# Looking ahead
-/

/-- The character behind the next one. With free spacing it is the first that is not blank, except
for one number sign. -/
def peek? (cursor : Cursor) : Option Char :=
  let behind := cursor.rest.drop 1
  if cursor.freeSpacing then
    match behind.dropWhile Blank.isBlank with
    | '#' :: comment => (comment.dropWhile Blank.isBlank).head?
    | others => others.head?
  else
    behind.head?

end Cursor
end Pattern
end SubtitleExchange
