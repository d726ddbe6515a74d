import SubtitleExchange.Block.Layout
import SubtitleExchange.Octets
import SubtitleExchange.Time.Base
import SubtitleExchange.Time.Timecode

/-!
# Packets

A packet is a raw block with its timing in milliseconds, taken from the two timecodes in the block.
A file holds one stream of packets.
-/

namespace SubtitleExchange

structure PictureSize where
  width : UInt32
  height : UInt32
deriving DecidableEq

namespace PictureSize

def standard : PictureSize := ⟨720, 576⟩

end PictureSize

inductive MediaType where
  | subtitle
deriving DecidableEq

namespace MediaType

def name : MediaType → String
  | subtitle => "Subtitle"

end MediaType

structure StreamInfo where
  index : Nat
  mediaType : MediaType
  picture : PictureSize
  timeBase : TimeBase
deriving DecidableEq

namespace StreamInfo

/-- The one stream of every file. -/
def subtitles : StreamInfo := ⟨0, .subtitle, PictureSize.standard, TimeBase.milliseconds⟩

end StreamInfo

structure Packet where
  data : Octets Layout.blockLength
  start : Int64
  duration : Int64
deriving DecidableEq

namespace Packet

/-- The time of the timecode at an offset, which is zero where no timecode fits. -/
def timeAt (data : Octets Layout.blockLength) (offset : Nat) (rate : FrameRate) : Int64 :=
  match Timecode.ofBytes? (data.bytes.drop offset) with
  | some timecode => timecode.millisAt rate
  | none => 0

def ofBlock (data : Octets Layout.blockLength) (rate : FrameRate) : Packet :=
  let start := timeAt data Layout.timeInOffset rate
  let stop := timeAt data Layout.timeOutOffset rate
  ⟨data, start, stop - start⟩

def stop (packet : Packet) : Int64 :=
  packet.start + packet.duration

def streamIndex (_packet : Packet) : Nat :=
  StreamInfo.subtitles.index

end Packet
end SubtitleExchange
