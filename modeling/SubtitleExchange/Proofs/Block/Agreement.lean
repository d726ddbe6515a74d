import SubtitleExchange.Block.Read
import SubtitleExchange.Proofs.Stream.Packets
import SubtitleExchange.Proofs.Stream.Rest

/-!
# Blocks and packets of one source

A block that is read field by field takes the same bytes as a packet. The two succeed together, fail
for the same reason, and leave the same rest of the source.
-/

namespace SubtitleExchange
namespace Reading

/-!
# Readings of a fixed length

A reading of `n` bytes is determined by the first `n` bytes that its source delivers. If fewer are
delivered, it fails for the reason that ended them.
-/

structure Takes {α : Type} (n : Nat) (reading : Reading α) : Prop where
  enough : ∀ bytes : List UInt8, bytes.length = n →
    ∃ a, ∀ source, bytes <+: source.delivered → reading.runOn source = (.ok a, source.behind n)
  short : ∀ source, source.delivered.length < n →
    reading.runOn source = (.error (source.closing.getD Fault.endOfInput), source.behind n)

theorem runOn_bind_error {α β : Type} {reading : Reading α} {source rest : Source} {cause : Fault}
    (h : reading.runOn source = (.error cause, rest)) (next : α → Reading β) :
    (reading >>= next).runOn source = (.error cause, rest) := by
  simp only [runOn, ExceptT.run_bind, StateT.run_bind] at h ⊢
  rw [h]
  rfl

theorem takes_pure {α : Type} (a : α) : Takes 0 (pure a) where
  enough _ _ := by
    refine ⟨a, fun source _ => ?_⟩
    rw [runOn_pure, Source.behind_zero]
  short _ hshort := absurd hshort (Nat.not_lt_zero _)

theorem Takes.bind {α β : Type} {m n : Nat} {reading : Reading α} {next : α → Reading β}
    (hfirst : Takes m reading) (hnext : ∀ a, Takes n (next a)) :
    Takes (m + n) (reading >>= next) where
  enough bytes hlength := by
    have hfront : (bytes.take m).length = m := by
      rw [List.length_take]
      omega
    have hback : (bytes.drop m).length = n := by
      rw [List.length_drop]
      omega
    obtain ⟨a, ha⟩ := hfirst.enough (bytes.take m) hfront
    obtain ⟨b, hb⟩ := (hnext a).enough (bytes.drop m) hback
    refine ⟨b, fun source hbytes => ?_⟩
    obtain ⟨more, hmore⟩ := hbytes
    have hm : m ≤ source.delivered.length := by
      rw [← hmore, List.length_append]
      omega
    have hdrop : bytes.drop m <+: (source.behind m).delivered := by
      rw [(Source.delivered_behind hm).1, ← hmore, List.drop_append_of_le_length (by omega)]
      exact List.prefix_append _ _
    have htake : bytes.take m <+: source.delivered := by
      rw [← hmore]
      exact (List.take_prefix m bytes).trans (List.prefix_append bytes more)
    rw [runOn_bind (ha source htake), hb (source.behind m) hdrop, Source.behind_add, if_pos hm]
  short source hshort := by
    rcases Nat.lt_or_ge source.delivered.length m with hlt | hm
    · rw [runOn_bind_error (hfirst.short source hlt), Source.behind_add, if_neg (by omega)]
    · obtain ⟨hdelivered, hclosing⟩ := Source.delivered_behind hm
      have hfront : (source.delivered.take m).length = m := List.length_take_of_le hm
      obtain ⟨a, ha⟩ := hfirst.enough (source.delivered.take m) hfront
      have hrest : (source.behind m).delivered.length < n := by
        rw [hdelivered, List.length_drop]
        omega
      rw [runOn_bind (ha source (List.take_prefix m source.delivered)),
        (hnext a).short (source.behind m) hrest, hclosing, Source.behind_add, if_pos hm]

theorem takes_octets (n : Nat) : Takes n (octets n) where
  enough bytes hlength := by
    refine ⟨⟨bytes, hlength⟩, fun source hbytes => ?_⟩
    have hdelivered : n ≤ source.delivered.length := hlength ▸ hbytes.length_le
    have htake : source.delivered.take n = bytes := by
      rw [← hlength]
      exact (List.prefix_iff_eq_take.mp hbytes).symm
    have hending := Source.ending_fill n source
    rw [if_pos hdelivered] at hending
    show source.readExact n = _
    rw [Source.readExact, hending, Source.bytes_fill, htake, Source.source_fill]
    simp [Octets.ofList?, hlength]
  short source hshort := by
    have hending := Source.ending_fill n source
    rw [if_neg (Nat.not_le.mpr hshort)] at hending
    have hnone : Octets.ofList? n (source.delivered.take n) = none := by
      rw [Octets.ofList?, dif_neg]
      rw [List.length_take]
      omega
    show source.readExact n = _
    rw [Source.readExact, hending, Source.bytes_fill, Source.source_fill]
    cases source.closing with
    | none =>
        simp only [Source.Ending.ofClosing, hnone]
        rfl
    | some cause =>
        rfl

theorem takes_byte : Takes 1 byte :=
  (takes_octets 1).bind fun _ => takes_pure _

theorem takes_word : Takes 2 word :=
  (takes_octets 2).bind fun _ => takes_pure _

theorem takes_timecode : Takes 4 timecode :=
  takes_byte.bind fun _ => takes_byte.bind fun _ => takes_byte.bind fun _ =>
    takes_byte.bind fun _ => takes_pure _

theorem takes_block : Takes Layout.blockLength block :=
  takes_byte.bind fun _ => takes_word.bind fun _ => takes_byte.bind fun _ =>
    takes_byte.bind fun _ => takes_timecode.bind fun _ => takes_timecode.bind fun _ =>
      takes_byte.bind fun _ => takes_byte.bind fun _ => takes_byte.bind fun _ =>
        (takes_octets Layout.textLength).bind fun _ => takes_pure _

end Reading

namespace Block

theorem delivered_ofBytes (bytes : List UInt8) : (Source.ofBytes bytes).delivered = bytes := by
  rw [Source.ofBytes, Source.delivered, List.drop_zero]

/-- Of a whole block only its bytes matter, not how they are delivered. -/
theorem read_of_enough {source : Source} (h : Layout.blockLength ≤ source.delivered.length) :
    ∃ block, read source = (.ok block, source.behind Layout.blockLength) ∧
      ofBytes (source.delivered.take Layout.blockLength) = .ok block := by
  let bytes := source.delivered.take Layout.blockLength
  obtain ⟨block, hblock⟩ := Reading.takes_block.enough bytes (List.length_take_of_le h)
  have hsource := hblock source (List.take_prefix _ _)
  have hbytes := hblock (.ofBytes bytes) ⟨[], by rw [List.append_nil, delivered_ofBytes]⟩
  refine ⟨block, ?_, ?_⟩
  · rw [read, hsource]
    rfl
  · rw [ofBytes, read, hbytes]
    rfl

theorem read_of_short {source : Source} (h : source.delivered.length < Layout.blockLength) :
    read source = (.error (.block (source.closing.getD Fault.endOfInput)),
      source.behind Layout.blockLength) := by
  rw [read, Reading.takes_block.short source h]
  rfl

theorem source_read (source : Source) : (read source).2 = source.behind Layout.blockLength := by
  rcases Nat.lt_or_ge source.delivered.length Layout.blockLength with hlt | hge
  · rw [read_of_short hlt]
  · obtain ⟨_, hblock, _⟩ := read_of_enough hge
    rw [hblock]

end Block

namespace Reader

theorem source_read {reader : Reader} (h : reader.exhausted = false) :
    reader.read.reader.source = reader.source.behind Layout.blockLength := by
  rw [read_of_open h, ← Source.source_fill, accept]
  split
  · rfl
  · split
    · rfl
    · rfl

/-- A whole block, a fault before its end, and an end before its end are the three cases. -/
theorem read_block_cases {reader : Reader} (hopen : reader.exhausted = false) :
    (∃ packet b, Layout.blockLength ≤ reader.source.delivered.length ∧
        reader.read.result = .ok (some packet) ∧ (Block.read reader.source).1 = .ok b ∧
        Block.ofBytes packet.data.bytes = .ok b) ∨
      (reader.source.delivered.length < Layout.blockLength ∧
        reader.read.result = lastResult reader.source.closing ∧
        (Block.read reader.source).1 =
          .error (.block (reader.source.closing.getD Fault.endOfInput))) := by
  rcases Nat.lt_or_ge reader.source.delivered.length Layout.blockLength with hlt | hge
  · refine Or.inr ⟨hlt, (read_last hopen hlt).1, ?_⟩
    rw [Block.read_of_short hlt]
  · obtain ⟨data, hdata, hread⟩ := read_block hopen hge
    obtain ⟨b, hblock, hbytes⟩ := Block.read_of_enough hge
    refine Or.inl ⟨Packet.ofBlock data reader.rate, b, hge, ?_, ?_, ?_⟩
    · rw [hread]
    · rw [hblock]
    · rw [← hbytes, ← hdata]
      rfl

/-- From an open reader and from its source alone, a packet and a block come with the same bytes, or
fail to come for the same reason, and the same rest of the source is left. -/
theorem read_agrees_block {reader : Reader} (hopen : reader.exhausted = false) :
    let step := reader.read
    let block := Block.read reader.source
    let short := reader.source.delivered.length < Layout.blockLength
    step.reader.source = block.2 ∧
      ((∃ packet, step.result = .ok (some packet)) ↔ ∃ b, block.1 = .ok b) ∧
      (∀ packet, step.result = .ok (some packet) → block.1 = Block.ofBytes packet.data.bytes) ∧
      (∀ error, step.result = .error error ↔
        ∃ cause, error = .stream cause ∧ short ∧ reader.source.closing = some cause) ∧
      (∀ cause, step.result = .error (.stream cause) → block.1 = .error (.block cause)) ∧
      (step.result = .ok none ↔ short ∧ reader.source.closing = none) ∧
      (step.result = .ok none → block.1 = .error (.block Fault.endOfInput)) := by
  intro step block short
  have hsource : step.reader.source = block.2 := by
    rw [show step.reader.source = _ from source_read hopen]
    exact (Block.source_read reader.source).symm
  refine ⟨hsource, ?_⟩
  rcases read_block_cases hopen with
    ⟨packet, b, hlong, hresult, hblock, hbytes⟩ | ⟨hshort, hresult, hblock⟩
  · simp [step, block, short, hresult, hblock, hbytes, Nat.not_lt.mpr hlong]
  · cases hclosing : reader.source.closing with
    | none =>
        rw [hclosing] at hresult hblock
        simp [step, block, short, hresult, hblock, hshort, lastResult]
    | some cause =>
        rw [hclosing] at hresult hblock
        simp [step, block, short, hresult, hblock, hshort, lastResult,
          eq_comm (a := ReadError.stream cause)]

/-- Chunks cut inside of fields, an interruption, and a fault inside of the text. -/
def brokenFeed : Source :=
  .feed [.chunk (List.replicate 2 1), .fault ⟨.interrupted, "again"⟩, .chunk (List.replicate 100 2),
    .fault ⟨.timedOut, "late"⟩, .chunk (List.replicate 128 3)] none

theorem read_agrees_block_of_brokenFeed :
    let reader : Reader := ⟨brokenFeed, FrameRate.standard, false⟩
    reader.exhausted = false ∧
      reader.read.result = .error (.stream ⟨.timedOut, "late"⟩) ∧
      (Block.read brokenFeed).1 = .error (.block ⟨.timedOut, "late"⟩) ∧
      reader.read.reader.source = (Block.read brokenFeed).2 ∧
      (Block.read brokenFeed).2 = .feed [.chunk (List.replicate 128 3)] none := by
  intro reader
  obtain ⟨hsource, _, _, herror, hblock, _, _⟩ :=
    read_agrees_block (show reader.exhausted = false from rfl)
  have hresult : reader.read.result = .error (.stream ⟨.timedOut, "late"⟩) :=
    (herror _).mpr ⟨_, rfl, by decide +kernel, by decide +kernel⟩
  exact ⟨rfl, hresult, hblock _ hresult, hsource, by decide +kernel⟩

end Reader
end SubtitleExchange
