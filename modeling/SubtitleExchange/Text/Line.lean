import SubtitleExchange.Text.Color

/-!
# Lines

A line of a subtitle has one foreground and one background colour throughout. A line without text is
not shown, but it keeps its place.
-/

namespace SubtitleExchange

structure Line where
  text : String
  foreground : Color
  background : Color
deriving DecidableEq

namespace Line

def isEmpty (line : Line) : Bool :=
  line.text.isEmpty

def visible (lines : List Line) : List Line :=
  lines.filter fun line => !line.isEmpty

def hasVisible (lines : List Line) : Bool :=
  lines.any fun line => !line.isEmpty

theorem hasVisible_iff (lines : List Line) : hasVisible lines = true ↔ visible lines ≠ [] := by
  simp [hasVisible, visible, List.filter_eq_nil_iff]

end Line
end SubtitleExchange
