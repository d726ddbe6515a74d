import SubtitleExchange.Conversion
import SubtitleExchange.Proofs.Stream.Packets
import SubtitleExchange.Proofs.Text.Reading
import SubtitleExchange.Proofs.Timing

/-!
# The dialogue lines of a file

A conversion looks at one block at a time. What a block adds to the script depends on the block
alone, so the lines of a file are the lines of its whole blocks, one after the other.
-/

namespace SubtitleExchange

/-!
# One block

A session decodes a block by itself, and only the number of the rectangle depends on the blocks
before it.
-/

theorem Block.cue?_ofOctets (data : Octets Layout.blockLength) (start stop : Int64) :
    (ofOctets data).cue? start stop =
      if Field.hasText (textOf data).bytes then
        some ⟨start, stop, (ofOctets data).lines, (ofOctets data).alignment⟩
      else none := by
  rw [cue?, Cue.assemble?, lines, Field.hasVisible_lines]
  rfl

namespace Conversion

/-- What a block shows at the times of its own timecodes. -/
def cueOf (data : Octets Layout.blockLength) (rate : FrameRate) : Cue where
  start := (Block.timecodeAt data Layout.timeInOffset).millisAt rate
  stop := (Block.timecodeAt data Layout.timeOutOffset).millisAt rate
  lines := (Block.ofOctets data).lines
  alignment := (Block.ofOctets data).alignment

/-- The cue of a block with text, and nothing for any other block. -/
def cuesOfBlock (rate : FrameRate) (data : Octets Layout.blockLength) : List Cue :=
  if Field.hasText (Block.textOf data).bytes then [cueOf data rate] else []

/-- The two times of that cue and its markup. -/
def eventsOfBlock (rate : FrameRate) (data : Octets Layout.blockLength) :
    List (Int64 × Int64 × String) :=
  if Field.hasText (Block.textOf data).bytes then
    [((Block.timecodeAt data Layout.timeInOffset).millisAt rate,
      (Block.timecodeAt data Layout.timeOutOffset).millisAt rate, (cueOf data rate).markup)]
  else []

/-- The dialogue line of a block with text, and nothing for any other block. -/
def dialoguesOfBlock (rate : FrameRate) (data : Octets Layout.blockLength) : List String :=
  if Field.hasText (Block.textOf data).bytes then
    let cue := cueOf data rate
    [Script.dialogue cue.start cue.stop cue.markup]
  else []

theorem eventsOfBlock_eq (rate : FrameRate) (data : Octets Layout.blockLength) :
    eventsOfBlock rate data =
      (cuesOfBlock rate data).map fun cue => (cue.start, cue.stop, cue.markup) := by
  rw [eventsOfBlock, cuesOfBlock, apply_ite (List.map _)]
  rfl

theorem dialoguesOfBlock_eq (rate : FrameRate) (data : Octets Layout.blockLength) :
    dialoguesOfBlock rate data =
      (cuesOfBlock rate data).map fun cue => Script.dialogue cue.start cue.stop cue.markup := by
  rw [dialoguesOfBlock, cuesOfBlock, apply_ite (List.map _)]
  rfl

theorem cuesOf_ofBlock (data : Octets Layout.blockLength) (rate : FrameRate) :
    Session.cuesOf (Packet.ofBlock data rate).start (Packet.ofBlock data rate).duration
      (Packet.ofBlock data rate).data.bytes = cuesOfBlock rate data := by
  refine (Session.cuesOf_bytes _ _ data).trans ?_
  rw [Session.cueOfBlock?, Packet.stop_ofBlock, Packet.start_ofBlock, Block.cue?_ofOctets,
    cuesOfBlock, apply_ite Option.toList]
  rfl

theorem rectanglesIn_eq (subtitle : Option Subtitle) :
    rectanglesIn subtitle = (Session.Response.subtitle subtitle).rectangles := by
  cases subtitle with
  | none =>
      rfl
  | some shown =>
      rfl

theorem map_dialogueOf_numbered (first : Nat) (cues : List Cue) :
    (Session.numbered first cues).map dialogueOf =
      cues.map fun cue => Script.dialogue cue.start cue.stop cue.markup :=
  Session.map_numbered (fun cue text => Script.dialogue cue.start cue.stop text) first cues

/-- The dialogue lines of a unit, if it shows anything. -/
def dialoguesOf (subtitle : Option Subtitle) : List String :=
  (rectanglesIn subtitle).map dialogueOf

theorem dialoguesOf_decodePacket (session : Session) (data : Octets Layout.blockLength)
    (rate : FrameRate) :
    dialoguesOf (session.decodePacket (Packet.ofBlock data rate)).value =
      dialoguesOfBlock rate data := by
  rw [dialoguesOf, rectanglesIn_eq, Session.decodePacket, Session.value_decode,
    Session.rectangles_subtitleOf, cuesOf_ofBlock, map_dialogueOf_numbered, dialoguesOfBlock_eq]

/-!
# All steps

The turns follow the steps one by one, and give what the session answers to the packets in a run.
-/

/-- All that a session makes of the packets of a reader. -/
def rectanglesOf (session : Session) (steps : List Reader.Step) : List Rectangle :=
  Session.rectanglesOf (session.run ((Reader.packetsOf steps).map .packet)).value

theorem rectangles_follow (session : Session) (steps : List Reader.Step) :
    (follow session steps).flatMap Turn.rectangles = rectanglesOf session steps := by
  induction steps generalizing session with
  | nil =>
      rfl
  | cons step rest ih =>
      rw [follow, rectanglesOf, Reader.packetsOf, List.filterMap_cons]
      cases step.result with
      | error error =>
          exact ih session
      | ok result =>
          cases result with
          | none =>
              exact ih session
          | some packet =>
              -- The run goes on from the session that the turn leaves, as the turns do.
              have hrest := ih (session.decodePacket packet).session
              exact congr (congrArg List.append (rectanglesIn_eq _)) hrest

/-!
# The blocks of a file

The blocks are counted from the end of the header, and only whole ones count.
-/

def blockCount (file : List UInt8) : Nat :=
  (file.length - Layout.headerLength) / Layout.blockLength

theorem lt_blockCount_iff (file : List UInt8) (k : Nat) :
    k < blockCount file ↔ Layout.headerLength + Layout.blockLength * (k + 1) ≤ file.length := by
  rw [blockCount, ← Nat.succ_le_iff, Nat.le_div_iff_mul_le (by decide)]
  simp only [Layout.headerLength, Layout.blockLength]
  omega

def blockAt (file : List UInt8) (k : Fin (blockCount file)) : Octets Layout.blockLength where
  bytes := (file.drop (Layout.headerLength + Layout.blockLength * k)).take Layout.blockLength
  length_eq := by
    have hk := (lt_blockCount_iff file k).mp k.isLt
    rw [Nat.mul_succ] at hk
    rw [List.length_take, List.length_drop]
    omega

theorem pieces_eq_ofFn_blockAt (file : List UInt8) :
    Octets.pieces Layout.blockLength (file.drop Layout.headerLength) =
      List.ofFn (blockAt file) := by
  have hpos : 0 < Layout.blockLength := by decide
  have hlength : (Octets.pieces Layout.blockLength (file.drop Layout.headerLength)).length =
      blockCount file := by
    rw [Octets.length_pieces hpos, List.length_drop, blockCount]
  apply List.ext_getElem
  · rw [hlength, List.length_ofFn]
  · intro k hk _
    have hcount := hlength ▸ hk
    have hfits := (lt_blockCount_iff file k).mp hcount
    have hpiece := Octets.getElem?_pieces hpos (file.drop Layout.headerLength) k
    rw [List.getElem?_eq_getElem hk, Option.map_some,
      if_pos (by rw [List.length_drop]; omega), List.drop_drop] at hpiece
    rw [List.getElem_ofFn]
    exact Octets.ext (Option.some.inj hpiece)

/-- A reader that stands behind the header of a file. -/
def readerOf (file : List UInt8) (rate : FrameRate) : Reader :=
  ⟨.memory file.toArray Layout.headerLength, rate, false⟩

theorem isAt_readerOf (file : List UInt8) (rate : FrameRate) :
    (readerOf file rate).IsAt rate (file.drop Layout.headerLength) none
      (file.drop Layout.headerLength) :=
  ⟨rfl, rfl, rfl, rfl, rfl⟩

theorem packetsOf_readerOf (file : List UInt8) (rate : FrameRate) :
    Reader.packetsOf (readerOf file rate).steps =
      (List.ofFn (blockAt file)).map fun data => Packet.ofBlock data rate := by
  rw [(isAt_readerOf file rate).packetsOf, pieces_eq_ofFn_blockAt]

theorem failureOf_readerOf (file : List UInt8) (rate : FrameRate) :
    Reader.failureOf (readerOf file rate).steps = none :=
  (isAt_readerOf file rate).failureOf

/-!
# The conversion of a file

The header, what is left behind the last whole block, and where the file stood before play no part.
-/

def ofFile (file : List UInt8) (rate : FrameRate) (settings : Session.Settings) : Conversion :=
  ofReader (readerOf file rate) [.opened rate] settings

theorem ofSource_memory (file : List UInt8) (position : Nat) (rate : FrameRate)
    (settings : Session.Settings) :
    ofSource (.memory file.toArray position) rate settings = .ok (ofFile file rate settings) :=
  rfl

variable (file : List UInt8) (rate : FrameRate) (settings : Session.Settings)

theorem failure_ofFile : (ofFile file rate settings).failure = none :=
  failureOf_readerOf file rate

theorem rectangles_ofFile :
    (ofFile file rate settings).rectangles =
      Session.numbered 0 ((List.ofFn (blockAt file)).flatMap (cuesOfBlock rate)) := by
  have hcues : (((Reader.packetsOf (readerOf file rate).steps).map
      Session.Request.packet).flatMap Session.Request.cues) =
        (List.ofFn (blockAt file)).flatMap (cuesOfBlock rate) := by
    rw [packetsOf_readerOf, List.map_map, List.flatMap_map]
    exact List.flatMap_congr fun data _ => cuesOf_ofBlock data rate
  have hproduced : (Session.start settings).session.produced = 0 := by
    rw [Session.session_start]
  refine (rectangles_follow _ _).trans ?_
  rw [rectanglesOf, Session.rectangles_run, hcues, hproduced]

theorem dialogues_ofFile :
    (ofFile file rate settings).dialogues =
      (List.ofFn (blockAt file)).flatMap (dialoguesOfBlock rate) := by
  rw [dialogues, rectangles_ofFile, map_dialogueOf_numbered, List.map_flatMap]
  simp only [← dialoguesOfBlock_eq]

theorem events_ofFile :
    (ofFile file rate settings).rectangles.map
        (fun rectangle => (rectangle.cue.start, rectangle.cue.stop, rectangle.text)) =
      (List.ofFn (blockAt file)).flatMap (eventsOfBlock rate) := by
  rw [rectangles_ofFile, Session.map_numbered fun cue text => (cue.start, cue.stop, text),
    List.map_flatMap]
  simp only [← eventsOfBlock_eq]

/-- The lines of a file are those of its whole blocks behind the header, in their order. A line shows
the markup of its block from one of its timecodes to the other. -/
theorem dialogues_of_file (position : Nat) :
    ∃ conversion,
      ofSource (.memory file.toArray position) rate settings = .ok conversion ∧
        conversion.failure = none ∧
        conversion.dialogues = (List.ofFn (blockAt file)).flatMap (dialoguesOfBlock rate) ∧
        conversion.rectangles.map
            (fun rectangle => (rectangle.cue.start, rectangle.cue.stop, rectangle.text)) =
          (List.ofFn (blockAt file)).flatMap (eventsOfBlock rate) ∧
        ∀ k, k < blockCount file ↔
          Layout.headerLength + Layout.blockLength * (k + 1) ≤ file.length :=
  ⟨ofFile file rate settings, ofSource_memory file position rate settings,
    failure_ofFile file rate settings, dialogues_ofFile file rate settings,
    events_ofFile file rate settings, lt_blockCount_iff file⟩

end Conversion
end SubtitleExchange
