import SubtitleExchange.Hex
import SubtitleExchange.Log
import SubtitleExchange.Stream.Packet
import SubtitleExchange.Stream.Source

/-!
# Reading packets

A reader is opened past the header of its source and takes one block at a time. It is exhausted by
the first block that is incomplete and by the first fault; an exhausted reader leaves its source
alone and logs nothing.
-/

namespace SubtitleExchange

structure Reader where
  source : Source
  rate : FrameRate
  exhausted : Bool
deriving DecidableEq

namespace Reader

inductive Event where
  | opened (rate : FrameRate)
  | failed
  | endedAfter (count : Nat)
  | blockRead (data : Octets Layout.blockLength)
  | packetRead (start duration : Int64)
deriving DecidableEq

namespace Event

def level : Event → LogLevel
  | blockRead _ => .trace
  | _ => .debug

def message : Event → String
  | opened rate =>
      "Positioned past " ++ toString Layout.headerLength ++ "-byte GSI header at "
        ++ toString rate.perSecond.toNat ++ " fps"
  | failed => "Stream exhausted after an IO error"
  | endedAfter count => "Stream exhausted after a " ++ toString count ++ "-byte read"
  | blockRead data => "TTI block (hex): " ++ Hex.dump data.bytes
  | packetRead start duration =>
      "Read packet at " ++ toString start.toInt ++ " ms lasting " ++ toString duration.toInt
        ++ " ms"

def logRecord (event : Event) : LogRecord :=
  ⟨event.level, "stl::demux", event.message⟩

end Event

/-- A fault of the seek past the header leaves no reader and no event. -/
def openAt (rate : FrameRate) (source : Source) : Except ReadError (Reader × List Event) :=
  match source.seek Layout.headerLength with
  | .ok positioned => .ok (⟨positioned, rate, false⟩, [.opened rate])
  | .error cause => .error (.stream cause)

/-!
# One step

A step gives a packet, the end or an error, what was logged, and the reader after it.
-/

structure Step where
  result : Except ReadError (Option Packet)
  log : List Event
  reader : Reader

def exhaust (reader : Reader) (source : Source) : Reader :=
  { reader with source, exhausted := true }

/-- What a filling of the block buffer means. -/
def accept (reader : Reader) (filling : Source.Filling) : Step :=
  match filling.ending with
  | .failed cause => ⟨.error (.stream cause), [.failed], reader.exhaust filling.source⟩
  | _ =>
      match Octets.ofList? Layout.blockLength filling.bytes with
      | none => ⟨.ok none, [.endedAfter filling.bytes.length], reader.exhaust filling.source⟩
      | some data =>
          let packet := Packet.ofBlock data reader.rate
          ⟨.ok (some packet), [.blockRead data, .packetRead packet.start packet.duration],
            { reader with source := filling.source }⟩

def read (reader : Reader) : Step :=
  if reader.exhausted then
    ⟨.ok none, [], reader⟩
  else
    reader.accept (reader.source.fill Layout.blockLength)

/-- The result as an item of a sequence, which has no item at the end. -/
def Step.item (step : Step) : Option (Except ReadError Packet) :=
  match step.result with
  | .ok none => none
  | .ok (some packet) => some (.ok packet)
  | .error error => some (.error error)

theorem read_of_exhausted {reader : Reader} (h : reader.exhausted = true) :
    reader.read = ⟨.ok none, [], reader⟩ := by
  simp [read, h]

/-!
# Reading to the end

Every packet takes a whole block from the source, so the steps come to an end.
-/

theorem accept_packet {reader : Reader} {filling : Source.Filling} {packet : Packet}
    (h : (reader.accept filling).result = .ok (some packet)) :
    filling.bytes.length = Layout.blockLength ∧
      (reader.accept filling).reader.source = filling.source := by
  unfold accept at h ⊢
  split at h
  · simp at h
  · split at h
    · simp at h
    · rename_i hdata
      exact ⟨Octets.length_of_ofList? hdata, rfl⟩

theorem remaining_of_packet {reader : Reader} {packet : Packet}
    (h : reader.read.result = .ok (some packet)) :
    reader.read.reader.source.remaining + Layout.blockLength = reader.source.remaining := by
  unfold read at h ⊢
  cases hexhausted : reader.exhausted with
  | true =>
      simp [hexhausted] at h
  | false =>
      simp only [hexhausted, Bool.false_eq_true, if_false] at h ⊢
      obtain ⟨hlength, hsource⟩ := accept_packet h
      have htotal := Source.remaining_fill Layout.blockLength reader.source
      rw [hsource]
      omega

/-- All steps up to the one that gives no packet. -/
def steps (reader : Reader) : List Step :=
  let step := reader.read
  match _hresult : step.result with
  | .ok (some _) => step :: steps step.reader
  | _ => [step]
termination_by reader.source.remaining
decreasing_by
  have hpacket := remaining_of_packet _hresult
  show reader.read.reader.source.remaining < reader.source.remaining
  simp only [Layout.blockLength] at hpacket
  omega

def packetIn : Except ReadError (Option Packet) → Option Packet
  | .ok packet => packet
  | .error _ => none

def errorIn : Except ReadError (Option Packet) → Option ReadError
  | .ok _ => none
  | .error error => some error

def packetsOf (steps : List Step) : List Packet :=
  steps.filterMap fun step => packetIn step.result

/-- The error that ended the steps, if one did. -/
def failureOf (steps : List Step) : Option ReadError :=
  steps.findSome? fun step => errorIn step.result

end Reader
end SubtitleExchange
