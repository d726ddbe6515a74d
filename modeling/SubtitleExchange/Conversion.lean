import SubtitleExchange.Session.Basic
import SubtitleExchange.Stream.Reader

/-!
# Converting a source into dialogue lines

Every packet of a reader goes to one session, and every rectangle that comes back is one dialogue
line, shown at the times of its cue. A read error ends the conversion and keeps the lines before it.
-/

namespace SubtitleExchange
namespace Conversion

inductive Event where
  | reader (event : Reader.Event)
  | session (event : Session.Event)
deriving DecidableEq

def Event.logRecord : Event → LogRecord
  | reader event => event.logRecord
  | session event => event.logRecord

/-- What one step of a reader adds: first its log, then its rectangles. -/
structure Turn where
  log : List Event
  rectangles : List Rectangle
deriving DecidableEq

def dialogueOf (rectangle : Rectangle) : String :=
  Script.dialogue rectangle.cue.start rectangle.cue.stop rectangle.text

def Turn.dialogues (turn : Turn) : List String :=
  turn.rectangles.map dialogueOf

/-- The rectangles of a unit, if it shows anything. -/
def rectanglesIn : Option Subtitle → List Rectangle
  | none => []
  | some subtitle => subtitle.rectangles

/-- Follows the steps of a reader. A step without a packet leaves the session alone. -/
def follow (session : Session) : List Reader.Step → List Turn
  | [] => []
  | step :: rest =>
      let read := step.log.map Event.reader
      match step.result with
      | .ok (some packet) =>
          let decoded := session.decodePacket packet
          ⟨read ++ decoded.log.map Event.session, rectanglesIn decoded.value⟩
            :: follow decoded.session rest
      | _ => ⟨read, []⟩ :: follow session rest

end Conversion

/-- A conversion from the session it starts with. What is logged before its first turn is kept
apart. -/
structure Conversion where
  opening : List Conversion.Event
  session : Session
  turns : List Conversion.Turn
  failure : Option ReadError

namespace Conversion

def rectangles (conversion : Conversion) : List Rectangle :=
  conversion.turns.flatMap Turn.rectangles

def dialogues (conversion : Conversion) : List String :=
  conversion.rectangles.map dialogueOf

/-- All that is logged, in the order in which it happens. -/
def log (conversion : Conversion) : List Event :=
  conversion.opening ++ conversion.turns.flatMap Turn.log

/-- The conversion by a reader, and what was logged when it was opened. -/
def ofReader (reader : Reader) (opened : List Reader.Event) (settings : Session.Settings) :
    Conversion where
  opening := opened.map Event.reader ++ (Session.start settings).log.map Event.session
  session := (Session.start settings).session
  turns := follow (Session.start settings).session reader.steps
  failure := Reader.failureOf reader.steps

/-- Fails only if the source cannot be positioned past the header. -/
def ofSource (source : Source) (rate : FrameRate) (settings : Session.Settings) :
    Except ReadError Conversion := do
  let (reader, opened) ← Reader.openAt rate source
  return ofReader reader opened settings

end Conversion
end SubtitleExchange
