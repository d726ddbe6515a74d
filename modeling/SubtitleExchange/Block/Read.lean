import SubtitleExchange.Block.Bytes
import SubtitleExchange.Stream.Source

/-!
# Reading blocks field by field

The fields of a block are taken from a source one after the other. When a field cannot be read, the
block fails, and the bytes taken before the failure stay taken.
-/

namespace SubtitleExchange

/-- A computation that takes bytes from a source and may fail on the way. -/
abbrev Reading := ExceptT Fault (StateM Source)

namespace Reading

def octets (n : Nat) : Reading (Octets n) :=
  ExceptT.mk fun source => source.readExact n

def byte : Reading UInt8 := do
  let one ← octets 1
  return one.byteAt 0

/-- Two bytes, the low one first. -/
def word : Reading UInt16 := do
  let two ← octets 2
  return Block.wordOf (two.byteAt 0) (two.byteAt 1)

def timecode : Reading Timecode := do
  let hours ← byte
  let minutes ← byte
  let seconds ← byte
  let frames ← byte
  return ⟨hours, minutes, seconds, frames⟩

def block : Reading Block := do
  let groupNumber ← byte
  let subtitleNumber ← word
  let extensionNumber ← byte
  let cumulativeStatus ← byte
  let timeIn ← timecode
  let timeOut ← timecode
  let verticalPosition ← byte
  let justification ← byte
  let commentFlag ← byte
  let text ← octets Layout.textLength
  return {
    groupNumber, subtitleNumber, extensionNumber, cumulativeStatus, timeIn, timeOut,
    verticalPosition, justification, commentFlag, text }

/-!
# Readings and their sources

`runOn` gives the result of a reading and the source after it. From memory that holds enough bytes,
every reading takes its bytes from the place where it stands.
-/

def runOn {α : Type} (reading : Reading α) (source : Source) : Except Fault α × Source :=
  reading.run.run source

theorem runOn_pure {α : Type} (a : α) (source : Source) :
    runOn (pure a) source = (.ok a, source) :=
  rfl

theorem runOn_bind {α β : Type} {reading : Reading α} {next : α → Reading β} {source rest : Source}
    {a : α} (h : reading.runOn source = (.ok a, rest)) :
    (reading >>= next).runOn source = (next a).runOn rest := by
  simp only [runOn, ExceptT.run_bind, StateT.run_bind] at h ⊢
  rw [h]
  rfl

theorem octets_memory {n position : Nat} {data : Array UInt8}
    (h : position + n ≤ data.size) :
    (octets n).runOn (.memory data position) =
      (.ok ⟨(data.toList.drop position).take n, Source.length_take_drop h⟩,
        .memory data (position + n)) :=
  Source.readExact_memory h

theorem byte_memory {position : Nat} {data : Array UInt8} (h : position < data.size) :
    byte.runOn (.memory data position) =
      (.ok (data.toList.getD position 0), .memory data (position + 1)) := by
  rw [byte, runOn_bind (octets_memory h), runOn_pure]
  simp [Octets.byteAt]

theorem word_memory {position : Nat} {data : Array UInt8} (h : position + 1 < data.size) :
    word.runOn (.memory data position) =
      (.ok (Block.wordOf (data.toList.getD position 0) (data.toList.getD (position + 1) 0)),
        .memory data (position + 2)) := by
  rw [word, runOn_bind (octets_memory h), runOn_pure]
  simp [Octets.byteAt]

theorem timecode_memory {position : Nat} {data : Array UInt8} (h : position + 3 < data.size) :
    timecode.runOn (.memory data position) =
      (.ok ⟨data.toList.getD position 0, data.toList.getD (position + 1) 0,
          data.toList.getD (position + 2) 0, data.toList.getD (position + 3) 0⟩,
        .memory data (position + 4)) := by
  rw [timecode, runOn_bind (byte_memory (by omega)), runOn_bind (byte_memory (by omega)),
    runOn_bind (byte_memory (by omega)), runOn_bind (byte_memory (by omega)), runOn_pure]

theorem block_memory (data : Octets Layout.blockLength) :
    block.runOn (.ofBytes data.bytes) =
      (.ok (Block.ofOctets data), .memory data.bytes.toArray Layout.blockLength) := by
  have hlength : data.bytes.toArray.size = 128 := data.length_eq
  rw [Source.ofBytes, block, runOn_bind (byte_memory (by omega)),
    runOn_bind (word_memory (by omega)), runOn_bind (byte_memory (by omega)),
    runOn_bind (byte_memory (by omega)),
    runOn_bind (timecode_memory (by omega)), runOn_bind (timecode_memory (by omega)),
    runOn_bind (byte_memory (by omega)), runOn_bind (byte_memory (by omega)),
    runOn_bind (byte_memory (by omega)),
    runOn_bind (octets_memory (by rw [hlength]; decide)), runOn_pure]
  rfl

end Reading

namespace Block

def read (source : Source) : Except ReadError Block × Source :=
  let (result, rest) := Reading.block.runOn source
  (result.mapError ReadError.block, rest)

/-- The results of reading `count` blocks from one source, failed ones among them. -/
def readMany : Nat → Source → List (Except ReadError Block) × Source
  | 0, source => ([], source)
  | count + 1, source =>
      let (result, next) := read source
      let (results, rest) := readMany count next
      (result :: results, rest)

/-- The block at the start of a byte list. -/
def ofBytes (bytes : List UInt8) : Except ReadError Block :=
  (read (.ofBytes bytes)).1

/-- Field by field and by position, a complete block is the same. -/
theorem ofBytes_octets (data : Octets Layout.blockLength) :
    ofBytes data.bytes = .ok (ofOctets data) := by
  rw [ofBytes, read, Reading.block_memory]
  rfl

end Block
end SubtitleExchange
