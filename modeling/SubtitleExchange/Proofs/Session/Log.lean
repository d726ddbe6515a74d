import SubtitleExchange.Proofs.Session.Units

/-!
# The log of a session

A unit is logged block by block: the bytes of the block, and then its rectangle or that it has none.
A warning tells how many bytes behind the last complete block were left out, and there is no other.
-/

namespace SubtitleExchange
namespace Session

/-!
# Records

An event is logged as its level and its message.
-/

def Event.record (event : Event) : LogLevel × String :=
  (event.level, event.message)

def cueRecord (rectangle : Rectangle) : LogLevel × String :=
  (.debug, "Decoded cue #" ++ toString rectangle.order ++ ": " ++ rectangle.text)

/-- The two records of a block that gives such a rectangle, or none. -/
def blockRecords (block : List UInt8) (shown : Option Rectangle) : List (LogLevel × String) :=
  [(.trace, "TTI block (hex): " ++ Hex.dump block),
    match shown with
    | some rectangle => cueRecord rectangle
    | none => (.trace, "Skipping block without visible text")]

/-- The record of the bytes behind the last complete block, if there are any. -/
def trailingRecords (count : Nat) : List (LogLevel × String) :=
  if count = 0 then []
  else [(.warning, "Ignoring " ++ toString count ++ " trailing bytes of a partial block")]

/-!
# One block
-/

/-- What is logged for a block that gives such a rectangle, or none. -/
def blockEvents (data : Octets Layout.blockLength) : Option Rectangle → List Event
  | some rectangle => [.blockGiven data, .cueDecoded rectangle.order rectangle.text]
  | none => [.blockGiven data, .blockSkipped]

/-- Every block of full length can be read, so no other event is logged. -/
theorem log_decodeBlock (session : Session) (start duration : Int64)
    (data : Octets Layout.blockLength) :
    (session.decodeBlock start duration data).log =
      blockEvents data (session.decodeBlock start duration data).value := by
  rw [decodeBlock_eq]
  cases cueOfBlock? start duration data with
  | none =>
      rfl
  | some cue =>
      rfl

theorem map_record_blockEvents (data : Octets Layout.blockLength) (shown : Option Rectangle) :
    (blockEvents data shown).map Event.record = blockRecords data.bytes shown := by
  cases shown with
  | none =>
      rfl
  | some rectangle =>
      rfl

/-- Of a block, only its rectangle is logged for users. -/
theorem filter_debug_blockEvents (data : Octets Layout.blockLength) (shown : Option Rectangle) :
    ((blockEvents data shown).map Event.record).filter (fun record => record.1 = .debug) =
      shown.toList.map cueRecord := by
  cases shown with
  | none =>
      rfl
  | some rectangle =>
      rfl

theorem level_ne_of_mem_blockEvents {data : Octets Layout.blockLength} {shown : Option Rectangle}
    {event : Event} (h : event ∈ blockEvents data shown) : event.level ≠ .warning := by
  cases shown with
  | none =>
      simp only [blockEvents, List.mem_cons, List.not_mem_nil, or_false] at h
      rcases h with rfl | rfl
      · exact nofun
      · exact nofun
  | some rectangle =>
      simp only [blockEvents, List.mem_cons, List.not_mem_nil, or_false] at h
      rcases h with rfl | rfl
      · exact nofun
      · exact nofun

/-!
# Many blocks
-/

/-- What the blocks give, one after the other. -/
def outcomes (session : Session) (start duration : Int64) :
    List (Octets Layout.blockLength) → List (Option Rectangle)
  | [] => []
  | data :: rest =>
      let first := session.decodeBlock start duration data
      first.value :: outcomes first.session start duration rest

section

variable (start duration : Int64)

theorem length_outcomes (session : Session) (blocks : List (Octets Layout.blockLength)) :
    (session.outcomes start duration blocks).length = blocks.length := by
  induction blocks generalizing session with
  | nil =>
      rfl
  | cons data rest ih =>
      rw [outcomes, List.length_cons, List.length_cons, ih]

theorem value_decodeBlocks (session : Session) (blocks : List (Octets Layout.blockLength)) :
    (session.decodeBlocks start duration blocks).value =
      (session.outcomes start duration blocks).filterMap id := by
  induction blocks generalizing session with
  | nil =>
      rfl
  | cons data rest ih =>
      rw [decodeBlocks, outcomes, List.filterMap_cons, ih]
      cases (session.decodeBlock start duration data).value with
      | none =>
          rfl
      | some rectangle =>
          rfl

theorem log_decodeBlocks (session : Session) (blocks : List (Octets Layout.blockLength)) :
    (session.decodeBlocks start duration blocks).log =
      (List.zipWith blockEvents blocks (session.outcomes start duration blocks)).flatten := by
  induction blocks generalizing session with
  | nil =>
      rfl
  | cons data rest ih =>
      rw [decodeBlocks, outcomes, List.zipWith_cons_cons, List.flatten_cons, ← log_decodeBlock, ih]

theorem filter_debug_log_decodeBlocks (session : Session)
    (blocks : List (Octets Layout.blockLength)) :
    ((session.decodeBlocks start duration blocks).log.map Event.record).filter
        (fun record => record.1 = .debug) =
      (session.decodeBlocks start duration blocks).value.map cueRecord := by
  induction blocks generalizing session with
  | nil =>
      rfl
  | cons data rest ih =>
      rw [decodeBlocks, List.map_append, List.filter_append, List.map_append, log_decodeBlock,
        filter_debug_blockEvents, ih]

theorem level_ne_of_mem_log_decodeBlocks {session : Session}
    {blocks : List (Octets Layout.blockLength)} {event : Event}
    (h : event ∈ (session.decodeBlocks start duration blocks).log) : event.level ≠ .warning := by
  induction blocks generalizing session with
  | nil =>
      cases h
  | cons data rest ih =>
      rw [decodeBlocks, List.mem_append, log_decodeBlock] at h
      rcases h with hblock | hrest
      · exact level_ne_of_mem_blockEvents hblock
      · exact ih hrest

theorem map_record_log_decodeBlocks (session : Session)
    (blocks : List (Octets Layout.blockLength)) :
    (session.decodeBlocks start duration blocks).log.map Event.record =
      (List.zipWith blockRecords (blocks.map Octets.bytes)
        (session.outcomes start duration blocks)).flatten := by
  rw [log_decodeBlocks, List.map_flatten, List.map_zipWith, List.zipWith_map_left]
  simp only [map_record_blockEvents]

theorem outcomes_append (session : Session) (front rest : List (Octets Layout.blockLength)) :
    session.outcomes start duration (front ++ rest) =
      session.outcomes start duration front ++
        (session.decodeBlocks start duration front).session.outcomes start duration rest := by
  induction front generalizing session with
  | nil =>
      rfl
  | cons data others ih =>
      rw [List.cons_append, outcomes, outcomes, ih]
      rfl

/-- What the blocks before it give counts for a block, and nothing else does. -/
theorem getElem?_outcomes (session : Session) (blocks : List (Octets Layout.blockLength))
    (k : Nat) :
    (session.outcomes start duration blocks)[k]? =
      blocks[k]?.map fun data =>
        ((session.decodeBlocks start duration (blocks.take k)).session.decodeBlock
          start duration data).value := by
  cases hblock : blocks[k]? with
  | none =>
      rw [Option.map_none, List.getElem?_eq_none_iff, length_outcomes]
      exact List.getElem?_eq_none_iff.mp hblock
  | some data =>
      obtain ⟨hk, rfl⟩ := List.getElem?_eq_some_iff.mp hblock
      have hlength : (session.outcomes start duration (blocks.take k)).length = k := by
        rw [length_outcomes, List.length_take_of_le (Nat.le_of_lt hk)]
      have hsplit := session.outcomes_append start duration (blocks.take k) (blocks.drop k)
      rw [List.take_append_drop, List.drop_eq_getElem_cons hk, outcomes] at hsplit
      rw [hsplit, List.getElem?_append_right (Nat.le_of_eq hlength), hlength, Nat.sub_self]
      rfl

end

/-!
# One unit
-/

theorem rectangles_decode (session : Session) (bytes : List UInt8) (start duration : Int64) :
    (Response.subtitle (session.decode bytes start duration).value).rectangles =
      (session.decodeBlocks start duration (Octets.pieces Layout.blockLength bytes)).value := by
  rw [decode]
  dsimp only
  cases (session.decodeBlocks start duration (Octets.pieces Layout.blockLength bytes)).value with
  | nil =>
      rfl
  | cons rectangle rest =>
      rfl

theorem rectangles_decode_bytes (session : Session) (start duration : Int64)
    (data : Octets Layout.blockLength) :
    (Response.subtitle (session.decode data.bytes start duration).value).rectangles =
      (session.decodeBlock start duration data).value.toList := by
  rw [rectangles_decode, Octets.pieces_bytes (by decide), decodeBlocks, decodeBlocks,
    List.append_nil]

/-- A block gives what it would give as a unit of its own behind the blocks before it. -/
theorem rectangles_decode_of_outcome {session : Session} {bytes : List UInt8}
    {start duration : Int64} {k : Nat} {data : Octets Layout.blockLength} {shown : Option Rectangle}
    (hdata : (Octets.pieces Layout.blockLength bytes)[k]? = some data)
    (hshown : (session.outcomes start duration (Octets.pieces Layout.blockLength bytes))[k]? =
      some shown) :
    let before := session.decode (bytes.take (128 * k)) start duration
    (Response.subtitle (before.session.decode data.bytes start duration).value).rectangles =
      shown.toList := by
  intro before
  rw [getElem?_outcomes, hdata, Option.map_some, Option.some.injEq] at hshown
  have hk : k < bytes.length / 128 := by
    rw [← Octets.length_pieces (by decide)]
    exact (List.getElem?_eq_some_iff.mp hdata).1
  have hend : Layout.blockLength * k ≤ bytes.length := by
    change 128 * k ≤ bytes.length
    omega
  have hbefore : before.session = (session.decodeBlocks start duration
      ((Octets.pieces Layout.blockLength bytes).take k)).session := by
    rw [← Octets.pieces_take (by decide) hend]
    rfl
  rw [rectangles_decode_bytes, hbefore, hshown]

theorem map_record_trailingLog (bytes : List UInt8) :
    (trailingLog bytes).map Event.record = trailingRecords (bytes.length % Layout.blockLength) := by
  rw [trailingLog, trailingRecords]
  split
  · rfl
  · rfl

theorem eq_of_mem_trailingLog {bytes : List UInt8} {event : Event} (h : event ∈ trailingLog bytes) :
    event = .bytesIgnored (bytes.length % Layout.blockLength) := by
  rw [trailingLog] at h
  split at h
  · cases h
  · exact List.mem_singleton.mp h

theorem level_trailingRecords (count : Nat) :
    (trailingRecords count).filter (fun record => record.1 = .debug) = [] ∧
      ((∃ message, (LogLevel.warning, message) ∈ trailingRecords count) ↔ count ≠ 0) := by
  by_cases hzero : count = 0
  · simp [trailingRecords, hzero]
  · simp [trailingRecords, hzero]

/-- All that is logged of a unit, as levels and messages. -/
def recordsOf (session : Session) (bytes : List UInt8) (start duration : Int64) :
    List (LogLevel × String) :=
  (session.decode bytes start duration).log.map Event.record

section

variable (session : Session) (bytes : List UInt8) (start duration : Int64)

theorem recordsOf_eq :
    session.recordsOf bytes start duration =
      (session.decodeBlocks start duration (Octets.pieces Layout.blockLength bytes)).log.map
        Event.record ++ trailingRecords (bytes.length % Layout.blockLength) := by
  rw [recordsOf, decode, List.map_append, map_record_trailingLog]

theorem filter_debug_recordsOf :
    (session.recordsOf bytes start duration).filter (fun record => record.1 = .debug) =
      (Response.subtitle (session.decode bytes start duration).value).rectangles.map
        cueRecord := by
  rw [recordsOf_eq, List.filter_append, filter_debug_log_decodeBlocks,
    (level_trailingRecords _).1, List.append_nil, rectangles_decode]

theorem warning_mem_recordsOf_iff :
    (∃ message, (LogLevel.warning, message) ∈ session.recordsOf bytes start duration) ↔
      bytes.length % Layout.blockLength ≠ 0 := by
  rw [recordsOf_eq, ← (level_trailingRecords _).2]
  apply exists_congr
  intro message
  rw [List.mem_append]
  apply or_iff_right
  intro hmem
  obtain ⟨event, hevent, hrecord⟩ := List.mem_map.mp hmem
  exact level_ne_of_mem_log_decodeBlocks start duration hevent (congrArg Prod.fst hrecord)

theorem unreadable_not_mem_log (error : ReadError) :
    Event.blockUnreadable error ∉ (session.decode bytes start duration).log := by
  intro herror
  rcases List.mem_append.mp herror with hblock | htrailing
  · exact level_ne_of_mem_log_decodeBlocks start duration hblock rfl
  · exact nomatch eq_of_mem_trailingLog htrailing

/-- A unit logs the bytes of every complete block, and for each of them the rectangle that it gives
or that it gives none. Only bytes behind them are warned of, and no block is unreadable. -/
theorem log_of_unit :
    let step := session.decode bytes start duration
    let rectangles := (Response.subtitle step.value).rectangles
    let blocks := (List.range (bytes.length / 128)).map fun k => (bytes.drop (128 * k)).take 128
    let ignored := bytes.length % 128
    let records := step.log.map Event.record
    ∃ given : List (Option Rectangle),
      given.length = blocks.length ∧ given.filterMap id = rectangles ∧
      (∀ k block shown, blocks[k]? = some block → given[k]? = some shown →
        let before := session.decode (bytes.take (128 * k)) start duration
        (Response.subtitle (before.session.decode block start duration).value).rectangles =
          shown.toList) ∧
      records = (List.zipWith blockRecords blocks given).flatten ++ trailingRecords ignored ∧
      (records.filter fun record => record.1 = .debug) = rectangles.map cueRecord ∧
      ((∃ message, (LogLevel.warning, message) ∈ records) ↔ ignored ≠ 0) ∧
      ∀ error, Event.blockUnreadable error ∉ step.log := by
  intro step rectangles blocks ignored records
  have hblocks : blocks = (Octets.pieces Layout.blockLength bytes).map Octets.bytes :=
    (Octets.map_bytes_pieces (by decide) bytes).symm
  refine ⟨session.outcomes start duration (Octets.pieces Layout.blockLength bytes), ?_, ?_, ?_, ?_,
    session.filter_debug_recordsOf bytes start duration,
    session.warning_mem_recordsOf_iff bytes start duration,
    session.unreadable_not_mem_log bytes start duration⟩
  · rw [length_outcomes, hblocks, List.length_map]
  · rw [← value_decodeBlocks]
    exact (session.rectangles_decode bytes start duration).symm
  · intro k block shown hblock hshown
    rw [hblocks, List.getElem?_map, Option.map_eq_some_iff] at hblock
    obtain ⟨data, hdata, rfl⟩ := hblock
    exact rectangles_decode_of_outcome hdata hshown
  · rw [hblocks, ← map_record_log_decodeBlocks]
    exact session.recordsOf_eq bytes start duration

end

end Session
end SubtitleExchange
