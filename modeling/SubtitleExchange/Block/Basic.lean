import SubtitleExchange.Block.Layout
import SubtitleExchange.Cue.Basic
import SubtitleExchange.Octets
import SubtitleExchange.Text.Field
import SubtitleExchange.Time.Timecode

/-!
# Blocks

A block holds the text of one subtitle, or a part of it, with its place and its timecodes. The cue
of a block is shown at times given from outside, so the timecodes of the block play no part in it.
-/

namespace SubtitleExchange

structure Block where
  groupNumber : UInt8
  subtitleNumber : UInt16
  extensionNumber : UInt8
  cumulativeStatus : UInt8
  timeIn : Timecode
  timeOut : Timecode
  verticalPosition : UInt8
  justification : UInt8
  commentFlag : UInt8
  text : Octets Layout.textLength
deriving DecidableEq

namespace Block

/-- The last block of subtitle zero, with no text. -/
def blank : Block where
  groupNumber := 0
  subtitleNumber := 0
  extensionNumber := 0xFF
  cumulativeStatus := 0
  timeIn := Timecode.zero
  timeOut := Timecode.zero
  verticalPosition := 0
  justification := 0
  commentFlag := 0
  text := Octets.replicate Layout.textLength Code.terminatorByte

def lines (block : Block) : List Line :=
  Field.lines block.text.bytes

def alignment (block : Block) : Alignment :=
  Alignment.resolve block.justification block.verticalPosition

def cue? (block : Block) (start stop : Int64) : Option Cue :=
  Cue.assemble? start stop block.lines block.alignment

end Block
end SubtitleExchange
