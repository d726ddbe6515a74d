import SubtitleExchange.Proofs.Block.Layout
import SubtitleExchange.Proofs.Session.Units
import SubtitleExchange.Proofs.Time.Timecode
import SubtitleExchange.Stream.Packet

/-!
# Times of packets and cues

Both timecodes of a block are complete, and the times of its packet are theirs. A cue of the block is
shown from the one to the other, also where the second is before the first.
-/

namespace SubtitleExchange
namespace Packet

/-!
# Times of packets
-/

theorem timeAt_eq {offset : Nat} (hoffset : offset + 4 ≤ Layout.blockLength)
    (data : Octets Layout.blockLength) (rate : FrameRate) :
    timeAt data offset rate = (Block.timecodeAt data offset).millisAt rate := by
  have hfound := Block.ofBytes?_drop hoffset data []
  rw [List.append_nil] at hfound
  rw [timeAt, hfound]

theorem start_ofBlock (data : Octets Layout.blockLength) (rate : FrameRate) :
    (ofBlock data rate).start = (Block.timecodeAt data Layout.timeInOffset).millisAt rate :=
  timeAt_eq (by decide) data rate

/-- The start that was taken off for the duration comes back with it. -/
theorem stop_ofBlock (data : Octets Layout.blockLength) (rate : FrameRate) :
    (ofBlock data rate).start + (ofBlock data rate).duration =
      (Block.timecodeAt data Layout.timeOutOffset).millisAt rate := by
  rw [← timeAt_eq (by decide) data rate, Int64.add_comm]
  exact Int64.sub_add_cancel _ _

theorem toInt_start (data : Octets Layout.blockLength) (rate : FrameRate) :
    (ofBlock data rate).start.toInt =
      (Block.timecodeAt data Layout.timeInOffset).offset rate := by
  rw [start_ofBlock, Timecode.toInt_millisAt]

theorem toInt_start_add_duration (data : Octets Layout.blockLength) (rate : FrameRate) :
    (ofBlock data rate).start.toInt + (ofBlock data rate).duration.toInt =
      (Block.timecodeAt data Layout.timeOutOffset).offset rate := by
  have hstart := (Block.timecodeAt data Layout.timeInOffset).offset_bounds rate
  have hstop := (Block.timecodeAt data Layout.timeOutOffset).offset_bounds rate
  have hduration : (ofBlock data rate).duration =
      Int64.ofInt ((Block.timecodeAt data Layout.timeOutOffset).offset rate -
        (Block.timecodeAt data Layout.timeInOffset).offset rate) := by
    rw [ofBlock, timeAt_eq (by decide), timeAt_eq (by decide), Int64.ofInt_sub]
    rfl
  rw [toInt_start, hduration, Int64.toInt_ofInt_of_le (by omega) (by omega)]
  omega

/-- The start, the duration and the end of a packet, if both timecodes are found and every number is
held in a word of 64 bits. -/
def timesInWords? (data : Octets Layout.blockLength) (rate : FrameRate) :
    Option (Int × Int × Int) := do
  let timeIn ← Timecode.ofBytes? (data.bytes.drop Layout.timeInOffset)
  let timeOut ← Timecode.ofBytes? (data.bytes.drop Layout.timeOutOffset)
  let start ← timeIn.millisInWords? rate
  let stop ← timeOut.millisInWords? rate
  let duration ← Word.checked 64 (stop - start)
  let last ← Word.checked 64 (start + duration)
  return (start, duration, last)

theorem toInt_stop (data : Octets Layout.blockLength) (rate : FrameRate) :
    (ofBlock data rate).stop.toInt =
      (Block.timecodeAt data Layout.timeOutOffset).offset rate := by
  rw [stop, stop_ofBlock, Timecode.toInt_millisAt]

theorem timesInWords?_eq (data : Octets Layout.blockLength) (rate : FrameRate) :
    timesInWords? data rate =
      some ((ofBlock data rate).start.toInt, (ofBlock data rate).duration.toInt,
        (ofBlock data rate).stop.toInt) := by
  have htimeIn : Timecode.ofBytes? (data.bytes.drop Layout.timeInOffset) =
      some (Block.timecodeAt data Layout.timeInOffset) :=
    (Block.isLaidOut_ofOctets data).timeIn
  have htimeOut : Timecode.ofBytes? (data.bytes.drop Layout.timeOutOffset) =
      some (Block.timecodeAt data Layout.timeOutOffset) :=
    (Block.isLaidOut_ofOctets data).timeOut
  have hsum : (ofBlock data rate).start.toInt + (ofBlock data rate).duration.toInt =
      (ofBlock data rate).stop.toInt := by
    rw [toInt_stop, toInt_start_add_duration]
  have hduration : (ofBlock data rate).stop.toInt - (ofBlock data rate).start.toInt =
      (ofBlock data rate).duration.toInt := by
    omega
  simp only [timesInWords?, htimeIn, htimeOut, Timecode.millisInWords?_eq, ← toInt_start,
    ← toInt_stop, Option.bind_eq_bind, Option.bind_some, hduration, hsum, Word.checked_toInt]
  rfl

/-!
# Times of cues
-/

theorem map_cue_decodePacket (session : Session) (data : Octets Layout.blockLength)
    (rate : FrameRate) :
    (Session.Response.subtitle
        (session.decodePacket (ofBlock data rate)).value).rectangles.map Rectangle.cue =
      ((Block.ofOctets data).cue? (ofBlock data rate).start (ofBlock data rate).stop).toList := by
  rw [Session.decodePacket, Session.value_decode, Session.rectangles_subtitleOf,
    Session.map_cue_numbered]
  exact Session.cuesOf_bytes _ _ data

theorem times_of_cue? {block : Block} {start stop : Int64} {cue : Cue}
    (h : block.cue? start stop = some cue) : cue.start = start ∧ cue.stop = stop := by
  rw [Block.cue?, Cue.assemble?] at h
  split at h
  · cases h
    exact ⟨rfl, rfl⟩
  · cases h

/-- The times of a packet are those of the two timecodes that are read with its block, and so are the
times of its cue. They are so far from the ends of the 64-bit range that nothing on the way to them
leaves it, and neither timecode is missing. -/
theorem times_of_block (data : Octets Layout.blockLength) (rate : FrameRate) (session : Session) :
    ∃ block, Block.ofBytes data.bytes = .ok block ∧
      let packet := ofBlock data rate
      let start := block.timeIn.millisAt rate
      let stop := block.timeOut.millisAt rate
      packet.start = start ∧ packet.stop = stop ∧
        packet.duration.toInt = stop.toInt - start.toInt ∧
        (∀ time ∈ [start, stop], -36000000 ≤ time.toInt ∧ time.toInt ≤ 1200000000) ∧
        Timecode.ofBytes? (data.bytes.drop Layout.timeInOffset) = some block.timeIn ∧
        Timecode.ofBytes? (data.bytes.drop Layout.timeOutOffset) = some block.timeOut ∧
        timesInWords? data rate = some (start.toInt, packet.duration.toInt, stop.toInt) ∧
        let cues := (Session.Response.subtitle
          (session.decodePacket packet).value).rectangles.map Rectangle.cue
        cues = (block.cue? start stop).toList ∧
          ∀ cue ∈ cues, cue.start = start ∧ cue.stop = stop := by
  have hlaid := Block.isLaidOut_ofOctets data
  refine ⟨Block.ofOctets data, Block.ofBytes_octets data, ?_⟩
  intro packet start stop
  have hstart : packet.start = start := start_ofBlock data rate
  have hstop : packet.stop = stop := stop_ofBlock data rate
  have hwords := timesInWords?_eq data rate
  have hcues := map_cue_decodePacket session data rate
  have hsum := toInt_start_add_duration data rate
  rw [← toInt_stop] at hsum
  rw [show ofBlock data rate = packet from rfl, hstart, hstop] at hwords hcues hsum
  refine ⟨hstart, hstop, by omega, ?_, hlaid.timeIn, hlaid.timeOut, hwords, hcues, ?_⟩
  · intro time htime
    rcases List.mem_pair.mp htime with rfl | rfl
    · rw [Timecode.toInt_millisAt]
      exact Timecode.offset_bounds _ rate
    · rw [Timecode.toInt_millisAt]
      exact Timecode.offset_bounds _ rate
  · intro cue hcue
    rw [hcues, Option.mem_toList] at hcue
    exact times_of_cue? hcue

/-- One letter from the latest timecode back to the earliest one. -/
def backwardBlock : Block :=
  { Block.blank with
    timeIn := ⟨255, 255, 255, 255⟩
    timeOut := ⟨0, 0, 0, 0⟩
    text := Octets.replicate Layout.textLength 0x41 }

theorem times_of_backwardBlock :
    let packet := ofBlock backwardBlock.toOctets ⟨1, by decide⟩
    let session : Session := ⟨TimeBase.milliseconds, PictureSize.standard, 3⟩
    packet.start = 897810000 ∧ packet.stop = -36000000 ∧
      packet.duration.toInt = -933810000 ∧
      -36000000 ≤ packet.stop.toInt ∧ packet.start.toInt ≤ 1200000000 ∧
      ∃ cue, cue ∈ (Session.Response.subtitle
          (session.decodePacket packet).value).rectangles.map Rectangle.cue ∧
        cue.start = 897810000 ∧ cue.stop = -36000000 := by
  intro packet session
  obtain ⟨block, hblock, hstart, hstop, hduration, hbounds, _, _, _, hcues, htimes⟩ :=
    times_of_block backwardBlock.toOctets ⟨1, by decide⟩ session
  rw [Block.ofBytes_octets, Block.ofOctets_toOctets, Except.ok.injEq] at hblock
  subst hblock
  have hearly : backwardBlock.timeIn.millisAt ⟨1, by decide⟩ = 897810000 := by decide
  have hlate : backwardBlock.timeOut.millisAt ⟨1, by decide⟩ = -36000000 := by decide
  obtain ⟨cue, hcue⟩ := Option.isSome_iff_exists.mp
    (show (backwardBlock.cue? 897810000 (-36000000)).isSome = true by decide +kernel)
  rw [hearly] at hstart hduration hbounds hcues htimes
  rw [hlate] at hstop hduration hbounds hcues htimes
  have hmem : cue ∈ (Session.Response.subtitle
      (session.decodePacket packet).value).rectangles.map Rectangle.cue := by
    rw [hcues, hcue]
    exact List.mem_singleton_self cue
  refine ⟨hstart, hstop, hduration, ?_, ?_, cue, hmem, htimes cue hmem⟩
  · rw [hstop]
    exact (hbounds _ (by simp)).1
  · rw [hstart]
    exact (hbounds _ (by simp)).2

end Packet

namespace Timecode

/-!
# The order of times

A block whose timecodes are in the ranges of a clock has a packet that does not go backwards exactly
if its second timecode is not before the first.
-/

section

variable {t u : Timecode} {rate : FrameRate}

theorem millisAt_le_of_toBytes_le (ht : t.IsProper rate) (hu : u.IsProper rate)
    (h : t.toBytes ≤ u.toBytes) : t.millisAt rate ≤ u.millisAt rate := by
  rw [millisAt_le_iff]
  by_contra hlt
  exact List.not_lt.mpr h (toBytes_lt_of_offset_lt hu ht (not_le.mp hlt))

theorem millisAt_inj (ht : t.IsProper rate) (hu : u.IsProper rate)
    (hrate : rate.perSecond ≤ 1000) : t.millisAt rate = u.millisAt rate ↔ t = u := by
  constructor
  · intro h
    have hoffset : t.offset rate = u.offset rate := by
      rw [← toInt_millisAt, h, toInt_millisAt]
    have hle : t.toBytes ≤ u.toBytes := by
      rw [← List.not_lt, toBytes_lt_iff hu ht hrate]
      omega
    have hge : u.toBytes ≤ t.toBytes := by
      rw [← List.not_lt, toBytes_lt_iff ht hu hrate]
      omega
    exact toBytes_inj.mp (List.le_antisymm hle hge)
  · intro h
    rw [h]

/-- Times keep the order of timecodes that are in the ranges of a clock. They are as different as
their timecodes if a frame lasts a millisecond or more. -/
theorem order_of_times (ht : t.IsProper rate) (hu : u.IsProper rate) :
    (t.toBytes ≤ u.toBytes → t.millisAt rate ≤ u.millisAt rate) ∧
      (rate.perSecond ≤ 1000 →
        (t.toBytes < u.toBytes ↔ t.millisAt rate < u.millisAt rate) ∧
        (t.millisAt rate = u.millisAt rate ↔ t = u) ∧
        ∀ (data : Octets Layout.blockLength) (block : Block),
          Block.ofBytes data.bytes = .ok block → block.timeIn = t → block.timeOut = u →
            (0 ≤ (Packet.ofBlock data rate).duration ↔ t.toBytes ≤ u.toBytes)) := by
  refine ⟨millisAt_le_of_toBytes_le ht hu, ?_⟩
  intro hrate
  refine ⟨?_, millisAt_inj ht hu hrate, ?_⟩
  · rw [toBytes_lt_iff ht hu hrate, millisAt_lt_iff]
  · intro data block hblock htimeIn htimeOut
    rw [Block.ofBytes_octets, Except.ok.injEq] at hblock
    have hstart : (Packet.ofBlock data rate).start.toInt = t.offset rate := by
      rw [Packet.toInt_start, ← htimeIn, ← hblock]
      rfl
    have hstop : (Packet.ofBlock data rate).start.toInt +
        (Packet.ofBlock data rate).duration.toInt = u.offset rate := by
      rw [Packet.toInt_start_add_duration, ← htimeOut, ← hblock]
      rfl
    rw [Int64.le_iff_toInt_le, Int64.toInt_zero, ← List.not_lt, toBytes_lt_iff hu ht hrate]
    omega

end

/-- The last frame of a second and the first one of the next, at a rate that does not divide the
second, and two frames of less than a millisecond. -/
theorem order_of_times_at_seam :
    let t : Timecode := ⟨9, 59, 59, 23⟩
    let u : Timecode := ⟨10, 0, 0, 0⟩
    let film : FrameRate := ⟨24, by decide⟩
    let fast : FrameRate := ⟨2000, by decide⟩
    let data := { Block.blank with timeIn := t, timeOut := u }.toOctets
    t.IsProper film ∧ u.IsProper film ∧ t.toBytes < u.toBytes ∧
      t.millisAt film = -57 ∧ t.millisAt film < u.millisAt film ∧
      (t.millisAt film = u.millisAt film ↔ t = u) ∧
      0 ≤ (Packet.ofBlock data film).duration ∧
      (⟨9, 59, 59, 22⟩ : Timecode).millisAt fast ≤ t.millisAt fast := by
  intro t u film fast data
  have ht : t.IsProper film := ⟨by decide, by decide, by decide⟩
  have hu : u.IsProper film := ⟨by decide, by decide, by decide⟩
  have hlt : t.toBytes < u.toBytes := by decide
  have hfirst : (⟨9, 59, 59, 22⟩ : Timecode).IsProper fast := ⟨by decide, by decide, by decide⟩
  have hsecond : t.IsProper fast := ⟨by decide, by decide, by decide⟩
  obtain ⟨_, hslow⟩ := order_of_times ht hu
  obtain ⟨hstrict, hinj, hpacket⟩ := hslow (by decide)
  obtain ⟨hfast, _⟩ := order_of_times hfirst hsecond
  refine ⟨ht, hu, hlt, by decide, hstrict.mp hlt, hinj, ?_, hfast (by decide)⟩
  exact (hpacket data { Block.blank with timeIn := t, timeOut := u }
    (by rw [Block.ofBytes_octets, Block.ofOctets_toOctets]) rfl rfl).mpr (by decide)

end Timecode
end SubtitleExchange
