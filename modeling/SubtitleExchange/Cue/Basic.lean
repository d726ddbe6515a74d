import SubtitleExchange.Cue.Alignment
import SubtitleExchange.Text.Line

/-!
# Cues

A cue is what is shown from one time to another: lines at a place in the picture. Only lines with
text are shown, and a cue is assembled only if there is one.
-/

namespace SubtitleExchange

structure Cue where
  start : Int64
  stop : Int64
  lines : List Line
  alignment : Alignment
deriving DecidableEq

namespace Cue

def assemble? (start stop : Int64) (lines : List Line) (alignment : Alignment) : Option Cue :=
  if Line.hasVisible lines then some ⟨start, stop, lines, alignment⟩ else none

def duration (cue : Cue) : Int64 :=
  cue.stop - cue.start

def visibleLines (cue : Cue) : List Line :=
  Line.visible cue.lines

/-- The text alone, one line for each line shown. -/
def plainText (cue : Cue) : String :=
  "\n".intercalate (cue.visibleLines.map Line.text)

theorem assemble?_eq_none_iff (start stop : Int64) (lines : List Line) (alignment : Alignment) :
    assemble? start stop lines alignment = none ↔ Line.hasVisible lines = false := by
  cases h : Line.hasVisible lines <;> simp [assemble?, h]

end Cue
end SubtitleExchange
