import SubtitleExchange.Block.Read
import SubtitleExchange.Cue.Markup
import SubtitleExchange.Log
import SubtitleExchange.Script.Event
import SubtitleExchange.Stream.Packet

/-!
# Decoding sessions

A session turns raw blocks into rectangles of marked-up text and numbers these from zero. All blocks
of one unit have the same timing. A block without visible text gives no rectangle and takes no
number; an incomplete block at the end of a unit is left out.
-/

namespace SubtitleExchange

structure Rectangle where
  text : String
  order : Nat
  cue : Cue
deriving DecidableEq

/-- What one unit shows, and for how many ticks of the session's time base. -/
structure Subtitle where
  displayTime : Int64
  rectangles : List Rectangle
deriving DecidableEq

structure Session where
  timeBase : TimeBase
  picture : PictureSize
  produced : Nat
deriving DecidableEq

namespace Session

structure Settings where
  timeBase : Option TimeBase
  width : Option UInt32
  height : Option UInt32
deriving DecidableEq

inductive Event where
  | started
  | pictureDefaulted
  | blockGiven (data : Octets Layout.blockLength)
  | cueDecoded (order : Nat) (text : String)
  | blockSkipped
  | blockUnreadable (error : ReadError)
  | bytesIgnored (count : Nat)
deriving DecidableEq

namespace Event

def level : Event → LogLevel
  | started => .debug
  | pictureDefaulted => .warning
  | blockGiven _ => .trace
  | cueDecoded _ _ => .debug
  | blockSkipped => .trace
  | blockUnreadable _ => .warning
  | bytesIgnored _ => .warning

def message : Event → String
  | started => "Initializing EBU STL decoder"
  | pictureDefaulted =>
      "Video dimensions not set, defaulting to " ++ toString PictureSize.standard.width.toNat
        ++ "x" ++ toString PictureSize.standard.height.toNat
  | blockGiven data => "TTI block (hex): " ++ Hex.dump data.bytes
  | cueDecoded order text => "Decoded cue #" ++ toString order ++ ": " ++ text
  | blockSkipped => "Skipping block without visible text"
  | blockUnreadable error => "Skipping unreadable block: " ++ error.message
  | bytesIgnored count =>
      "Ignoring " ++ toString count ++ " trailing bytes of a partial block"

def logRecord (event : Event) : LogRecord :=
  ⟨event.level, "stl::decoder", event.message⟩

end Event

/-- What a step of a session gives, what it logs, and the session after it. -/
structure Step (α : Type) where
  value : α
  log : List Event
  session : Session

/-!
# Settings

A time base that cannot be used is passed over. A picture size counts only if both lengths are given
and neither is zero.
-/

def resolveTimeBase (settings : Settings) : TimeBase :=
  match settings.timeBase with
  | some timeBase => if timeBase.isValid then timeBase else TimeBase.milliseconds
  | none => TimeBase.milliseconds

def resolvePicture? (settings : Settings) : Option PictureSize :=
  match settings.width, settings.height with
  | some width, some height => if 0 < width ∧ 0 < height then some ⟨width, height⟩ else none
  | _, _ => none

def start (settings : Settings) : Step Unit :=
  let timeBase := resolveTimeBase settings
  match resolvePicture? settings with
  | some picture => ⟨(), [.started], ⟨timeBase, picture, 0⟩⟩
  | none => ⟨(), [.started, .pictureDefaulted], ⟨timeBase, PictureSize.standard, 0⟩⟩

def header (session : Session) : String :=
  Script.header session.picture.width session.picture.height

/-!
# Units

The complete blocks of a unit are decoded from first to last.
-/

def decodeBlock (session : Session) (start duration : Int64) (data : Octets Layout.blockLength) :
    Step (Option Rectangle) :=
  match Block.ofBytes data.bytes with
  | .error error => ⟨none, [.blockGiven data, .blockUnreadable error], session⟩
  | .ok block =>
      match block.cue? start (start + duration) with
      | none => ⟨none, [.blockGiven data, .blockSkipped], session⟩
      | some cue =>
          let order := session.produced
          ⟨some ⟨cue.markup, order, cue⟩, [.blockGiven data, .cueDecoded order cue.markup],
            { session with produced := order + 1 }⟩

def decodeBlocks (session : Session) (start duration : Int64) :
    List (Octets Layout.blockLength) → Step (List Rectangle)
  | [] => ⟨[], [], session⟩
  | data :: rest =>
      let first := session.decodeBlock start duration data
      let others := decodeBlocks first.session start duration rest
      ⟨first.value.toList ++ others.value, first.log ++ others.log, others.session⟩

def trailingLog (bytes : List UInt8) : List Event :=
  let count := bytes.length % Layout.blockLength
  if count = 0 then [] else [.bytesIgnored count]

def displayTime (session : Session) (duration : Int64) : Int64 :=
  TimeBase.milliseconds.rescale duration session.timeBase

def decode (session : Session) (bytes : List UInt8) (start duration : Int64) :
    Step (Option Subtitle) :=
  let blocks := session.decodeBlocks start duration (Octets.pieces Layout.blockLength bytes)
  let subtitle :=
    if blocks.value.isEmpty then none else some ⟨session.displayTime duration, blocks.value⟩
  ⟨subtitle, blocks.log ++ trailingLog bytes, blocks.session⟩

def decodePacket (session : Session) (packet : Packet) : Step (Option Subtitle) :=
  session.decode packet.data.bytes packet.start packet.duration

end Session
end SubtitleExchange
