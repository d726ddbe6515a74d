import SubtitleExchange.Proofs.Pieces
import SubtitleExchange.Proofs.Stream.Filling
import SubtitleExchange.Stream.Reader

/-!
# The packets of a source

A reader takes what its source delivers block by block. It gives one packet for every whole block,
takes no byte beyond it, and ends with the fault that ended the delivery, if there was one.
-/

namespace SubtitleExchange
namespace Reader

/-!
# One step

Whether a whole block is delivered decides between a packet and the last result.
-/

/-- What a reader gives when less than a block is delivered. -/
def lastResult : Option Fault → Except ReadError (Option Packet)
  | none => .ok none
  | some cause => .error (.stream cause)

theorem read_of_open {reader : Reader} (h : reader.exhausted = false) :
    reader.read = reader.accept (reader.source.fill Layout.blockLength) := by
  simp [read, h]

theorem read_block {reader : Reader} (hopen : reader.exhausted = false)
    (hlength : Layout.blockLength ≤ reader.source.delivered.length) :
    ∃ data : Octets Layout.blockLength,
      data.bytes = reader.source.delivered.take Layout.blockLength ∧
        reader.read =
          ⟨.ok (some (Packet.ofBlock data reader.rate)),
            [.blockRead data, .packetRead (Packet.ofBlock data reader.rate).start
              (Packet.ofBlock data reader.rate).duration],
            { reader with source := (reader.source.fill Layout.blockLength).source }⟩ := by
  have hbytes := Source.bytes_fill Layout.blockLength reader.source
  have hending := Source.ending_fill Layout.blockLength reader.source
  rw [if_pos hlength] at hending
  let data : Octets Layout.blockLength :=
    ⟨reader.source.delivered.take Layout.blockLength, List.length_take_of_le hlength⟩
  have hdata : Octets.ofList? Layout.blockLength
      (reader.source.fill Layout.blockLength).bytes = some data := by
    rw [hbytes]
    exact Octets.ofList?_bytes data
  refine ⟨data, rfl, ?_⟩
  rw [read_of_open hopen, accept, hending]
  simp only [hdata]

theorem read_last {reader : Reader} (hopen : reader.exhausted = false)
    (hlength : reader.source.delivered.length < Layout.blockLength) :
    reader.read.result = lastResult reader.source.closing ∧
      reader.read.reader.exhausted = true := by
  have hbytes := Source.bytes_fill Layout.blockLength reader.source
  have hending := Source.ending_fill Layout.blockLength reader.source
  rw [if_neg (Nat.not_le.mpr hlength)] at hending
  have hdata : Octets.ofList? Layout.blockLength
      (reader.source.fill Layout.blockLength).bytes = none := by
    rw [hbytes, Octets.ofList?, dif_neg]
    rw [List.length_take]
    omega
  rw [read_of_open hopen, accept, hending]
  cases hclosing : reader.source.closing with
  | none =>
      simp only [Source.Ending.ofClosing, hdata]
      exact ⟨rfl, rfl⟩
  | some cause =>
      exact ⟨rfl, rfl⟩

/-- What a packet leaves to the next step: the delivered bytes behind the block, with the same end,
and of all bytes of the source no less than those behind the block. -/
theorem source_of_block {reader : Reader}
    (hlength : Layout.blockLength ≤ reader.source.delivered.length) :
    let rest := (reader.source.fill Layout.blockLength).source
    rest.delivered = reader.source.delivered.drop Layout.blockLength ∧
      rest.closing = reader.source.closing ∧
      rest.contents = reader.source.contents.drop Layout.blockLength := by
  have hdelivered := Source.delivered_fill hlength
  have hcontents := Source.contents_fill Layout.blockLength reader.source
  rw [Source.bytes_fill] at hcontents
  refine ⟨hdelivered.1, hdelivered.2, ?_⟩
  rw [← hcontents]
  exact (List.drop_left' (List.length_take_of_le hlength)).symm

/-!
# Many steps

The position of a reader moves on by one block with every packet.
-/

/-- The reader after a number of reads. -/
def after : Nat → Reader → Reader
  | 0, reader => reader
  | n + 1, reader => after n reader.read.reader

/-- An open reader at a place of a source: what is delivered from there on, and what is held. -/
structure IsAt (reader : Reader) (rate : FrameRate) (delivered : List UInt8)
    (closing : Option Fault) (contents : List UInt8) : Prop where
  isOpen : reader.exhausted = false
  rate_eq : reader.rate = rate
  delivered_eq : reader.source.delivered = delivered
  closing_eq : reader.source.closing = closing
  contents_eq : reader.source.contents = contents

section

variable {reader : Reader} {rate : FrameRate} {delivered contents : List UInt8}
  {closing : Option Fault}

theorem IsAt.read (h : reader.IsAt rate delivered closing contents)
    (hlength : Layout.blockLength ≤ delivered.length) :
    ∃ data : Octets Layout.blockLength,
      data.bytes = delivered.take Layout.blockLength ∧
        reader.read.result = .ok (some (Packet.ofBlock data rate)) ∧
        reader.read.reader.IsAt rate (delivered.drop Layout.blockLength) closing
          (contents.drop Layout.blockLength) := by
  obtain ⟨hopen, rfl, rfl, rfl, rfl⟩ := h
  obtain ⟨data, hdata, hread⟩ := read_block hopen hlength
  obtain ⟨hdelivered, hclosing, hcontents⟩ := source_of_block hlength
  refine ⟨data, hdata, ?_, ?_⟩
  · rw [hread]
  · rw [hread]
    exact ⟨hopen, rfl, hdelivered, hclosing, hcontents⟩

theorem IsAt.after (h : reader.IsAt rate delivered closing contents) {n : Nat}
    (hlength : Layout.blockLength * n ≤ delivered.length) :
    (after n reader).IsAt rate (delivered.drop (Layout.blockLength * n)) closing
      (contents.drop (Layout.blockLength * n)) := by
  induction n generalizing reader delivered contents with
  | zero =>
      exact h
  | succ n ih =>
      rw [Nat.mul_succ] at hlength
      obtain ⟨_, _, _, hnext⟩ := h.read (by omega)
      have hrest := ih hnext (by rw [List.length_drop]; omega)
      rw [List.drop_drop, List.drop_drop, Nat.add_comm, ← Nat.mul_succ] at hrest
      exact hrest

theorem IsAt.last (h : reader.IsAt rate delivered closing contents)
    (hlength : delivered.length < Layout.blockLength) :
    reader.read.result = lastResult closing := by
  obtain ⟨hopen, _, rfl, rfl, _⟩ := h
  exact (read_last hopen hlength).1

theorem steps_of_packet {reader : Reader} {packet : Packet}
    (h : reader.read.result = .ok (some packet)) :
    reader.steps = reader.read :: steps reader.read.reader := by
  rw [steps]
  split
  · rfl
  · rename_i hnone
    exact absurd h (hnone packet)

theorem steps_of_last {reader : Reader} {closing : Option Fault}
    (h : reader.read.result = lastResult closing) : reader.steps = [reader.read] := by
  rw [steps]
  split
  · rename_i hpacket
    rw [h] at hpacket
    cases closing <;> cases hpacket
  · rfl

/-- All results of an open reader up to the one that is no packet. -/
theorem IsAt.results (h : reader.IsAt rate delivered closing contents) :
    reader.steps.map Step.result =
      (Octets.pieces Layout.blockLength delivered).map
          (fun data => .ok (some (Packet.ofBlock data rate))) ++
        [lastResult closing] := by
  induction hsize : delivered.length using Nat.strongRecOn
    generalizing reader delivered contents with
  | ind size ih =>
      rcases Nat.lt_or_ge delivered.length Layout.blockLength with hlt | hge
      · have hlast := h.last hlt
        rw [Octets.pieces_of_lt hlt, steps_of_last hlast, List.map_singleton, hlast]
        rfl
      · obtain ⟨data, hdata, hresult, hnext⟩ := h.read hge
        obtain ⟨piece, hpiece, hpieces⟩ := Octets.pieces_of_le (by decide) hge
        have hsame : piece = data := Octets.ext (hpiece.trans hdata.symm)
        have hshorter : (delivered.drop Layout.blockLength).length < size := by
          rw [List.length_drop, ← hsize]
          exact Nat.sub_lt_of_pos_le (by decide) hge
        rw [steps_of_packet hresult, hpieces, List.map_cons, hresult,
          ih _ hshorter hnext rfl, hsame]
        rfl

theorem IsAt.packetsOf (h : reader.IsAt rate delivered closing contents) :
    Reader.packetsOf reader.steps =
      (Octets.pieces Layout.blockLength delivered).map fun data => Packet.ofBlock data rate := by
  have hpackets : Reader.packetsOf reader.steps =
      (reader.steps.map Step.result).filterMap packetIn := by
    rw [List.filterMap_map]
    rfl
  have hlast : packetIn (lastResult closing) = none := by
    cases closing with
    | none =>
        rfl
    | some cause =>
        rfl
  rw [hpackets, h.results, List.filterMap_append, List.filterMap_map,
    List.filterMap_cons_none hlast, List.filterMap_nil, List.append_nil, ← List.filterMap_eq_map]
  rfl

theorem IsAt.failureOf (h : reader.IsAt rate delivered closing contents) :
    Reader.failureOf reader.steps = closing.map ReadError.stream := by
  have hfailure : Reader.failureOf reader.steps =
      (reader.steps.map Step.result).findSome? errorIn := by
    rw [List.findSome?_map]
    rfl
  have hpackets : ((Octets.pieces Layout.blockLength delivered).map
      fun data => (.ok (some (Packet.ofBlock data rate)))).findSome? errorIn = none := by
    simp [errorIn]
  rw [hfailure, h.results, List.findSome?_append, hpackets]
  cases closing with
  | none =>
      rfl
  | some cause =>
      rfl

end

/-- However the bytes are cut into chunks, and wherever interruptions fall, a reader gives the
packets of the delivered blocks and then the end, and takes no byte before it is needed. -/
theorem packets_of_feed (rate : FrameRate) (deliveries : List Delivery) :
    ∃ reader, openAt rate (.feed deliveries none) = .ok (reader, [.opened rate]) ∧
      (∀ n < (Delivery.delivered deliveries).length / Layout.blockLength,
        ∃ data : Octets Layout.blockLength,
          data.bytes = ((Delivery.delivered deliveries).drop (Layout.blockLength * n)).take
              Layout.blockLength ∧
            (after n reader).read.result = .ok (some (Packet.ofBlock data rate))) ∧
      (after ((Delivery.delivered deliveries).length / Layout.blockLength) reader).read.result =
        lastResult (Delivery.closing deliveries) ∧
      ∀ n ≤ (Delivery.delivered deliveries).length / Layout.blockLength,
        (Delivery.delivered deliveries).take (Layout.blockLength * n) ++
          (after n reader).source.contents = Delivery.contents deliveries := by
  refine ⟨⟨.feed deliveries none, rate, false⟩, rfl, ?_⟩
  have hstart : IsAt ⟨.feed deliveries none, rate, false⟩ rate (Delivery.delivered deliveries)
      (Delivery.closing deliveries) (Delivery.contents deliveries) :=
    ⟨rfl, rfl, rfl, rfl, rfl⟩
  have hblocks : Layout.blockLength *
      ((Delivery.delivered deliveries).length / Layout.blockLength) ≤
        (Delivery.delivered deliveries).length := Nat.mul_div_le _ _
  refine ⟨?_, ?_, ?_⟩
  · intro n hn
    have hblock : Layout.blockLength * n + Layout.blockLength ≤
        (Delivery.delivered deliveries).length := by
      rw [← Nat.mul_succ]
      exact Nat.le_trans (Nat.mul_le_mul_left _ hn) hblocks
    have hn := hstart.after (n := n) (by omega)
    obtain ⟨data, hdata, hresult, _⟩ := hn.read (by rw [List.length_drop]; omega)
    exact ⟨data, hdata, hresult⟩
  · apply (hstart.after hblocks).last
    rw [List.length_drop, ← Nat.mod_eq_sub_mul_div]
    exact Nat.mod_lt _ (by decide)
  · intro n hn
    have hlength := Nat.le_trans (Nat.mul_le_mul_left Layout.blockLength hn) hblocks
    rw [(hstart.after hlength).contents_eq]
    obtain ⟨behind, hbehind⟩ := Delivery.delivered_prefix_contents deliveries
    rw [← hbehind, List.drop_append_of_le_length hlength, ← List.append_assoc,
      List.take_append_drop]

/-- A block in two chunks with an interruption between them, and a fault inside the next block. -/
def interruptedFeed : List Delivery :=
  [.chunk (List.replicate 100 1), .fault ⟨.interrupted, "again"⟩,
    .chunk (List.replicate 40 2), .fault ⟨.timedOut, "late"⟩, .chunk (List.replicate 128 3)]

theorem packets_of_interruptedFeed :
    ∃ reader, openAt FrameRate.standard (.feed interruptedFeed none) =
        .ok (reader, [.opened FrameRate.standard]) ∧
      (∃ data : Octets Layout.blockLength,
        data.bytes = List.replicate 100 1 ++ List.replicate 28 2 ∧
          reader.read.result = .ok (some (Packet.ofBlock data FrameRate.standard))) ∧
      reader.read.reader.read.result = .error (.stream ⟨.timedOut, "late"⟩) ∧
      List.replicate 100 1 ++ List.replicate 28 2 ++ reader.read.reader.source.contents =
        List.replicate 100 1 ++ List.replicate 40 2 ++ List.replicate 128 3 := by
  obtain ⟨reader, hopen, hpackets, hlast, hrest⟩ :=
    packets_of_feed FrameRate.standard interruptedFeed
  have hdelivered : Delivery.delivered interruptedFeed =
      List.replicate 100 1 ++ List.replicate 40 2 := by
    simp [interruptedFeed, Delivery.delivered]
  have hcontents : Delivery.contents interruptedFeed =
      List.replicate 100 1 ++ List.replicate 40 2 ++ List.replicate 128 3 := by
    simp [interruptedFeed, Delivery.contents]
  have hcount : (Delivery.delivered interruptedFeed).length / Layout.blockLength = 1 := by
    rw [hdelivered, List.length_append, List.length_replicate, List.length_replicate]
    rfl
  have htake : (List.replicate 100 (1 : UInt8) ++ List.replicate 40 2).take 128 =
      List.replicate 100 1 ++ List.replicate 28 2 := by
    rw [List.take_append, List.length_replicate, List.take_replicate, List.take_replicate]
    rfl
  rw [hcount, hdelivered] at hpackets hrest
  rw [hcount] at hlast
  obtain ⟨data, hdata, hpacket⟩ := hpackets 0 (by decide)
  have hfirst := hrest 1 (by decide)
  rw [hcontents, Nat.mul_one, htake] at hfirst
  refine ⟨reader, hopen, ⟨data, ?_, hpacket⟩, hlast, hfirst⟩
  rw [hdata, Nat.mul_zero, List.drop_zero, htake]

end Reader
end SubtitleExchange
