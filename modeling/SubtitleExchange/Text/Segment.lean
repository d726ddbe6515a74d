import SubtitleExchange.Text.Field

/-!
# Text fields by segments

A text field read as a whole rather than from left to right: the part before the terminator is split
at its line breaks, and every segment is a line on its own. Its printable bytes are its text, and the
last code of either kind gives its colour.
-/

namespace SubtitleExchange
namespace Field

def content (field : List UInt8) : List UInt8 :=
  field.takeWhile (· != Code.terminatorByte)

/-- A field with `n` line breaks has `n + 1` segments, empty ones among them. -/
def segments (content : List UInt8) : List (List UInt8) :=
  content.splitOn Code.lineBreakByte

def isForeground (b : UInt8) : Bool :=
  b ≤ 0x07

def isBackground (b : UInt8) : Bool :=
  0x10 ≤ b && b ≤ 0x17

def isPrintable (b : UInt8) : Bool :=
  Code.firstPrintable ≤ b

/-- The colour of the last byte of a kind, if the segment has one. -/
def lastColor (kind : UInt8 → Bool) (default : Color) (segment : List UInt8) : Color :=
  ((segment.filter kind).getLast?.map Color.ofCode).getD default

def segmentLine (segment : List UInt8) : Line where
  text := Repertoire.text (segment.filter isPrintable)
  foreground := lastColor isForeground .white segment
  background := lastColor isBackground .black segment

def reading (field : List UInt8) : List Line :=
  (segments (content field)).map segmentLine

/-- Whether a byte that is printed stands before the terminator. -/
def hasText (field : List UInt8) : Bool :=
  (content field).any fun b => isPrintable b && b != Code.lineBreakByte

end Field
end SubtitleExchange
