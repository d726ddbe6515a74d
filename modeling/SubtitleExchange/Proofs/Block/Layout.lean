import SubtitleExchange.Proofs.Block.Agreement

/-!
# Blocks and their bytes

A block is read from one byte string of its length and from no other. The fields are read one after
the other, without a position, and yet each of them is found at its place in the layout.
-/

namespace SubtitleExchange

namespace Octets

theorem getElem?_bytes_append {n i : Nat} (h : i < n) (o : Octets n) (rest : List UInt8) :
    (o.bytes ++ rest)[i]? = some (o.byteAt i) := by
  have hlength : i < o.bytes.length := Nat.lt_of_lt_of_eq h o.length_eq.symm
  rw [List.getElem?_append_left hlength, byteAt, List.getD_eq_getElem?_getD,
    List.getElem?_eq_getElem hlength, Option.getD_some]

theorem drop_bytes_append {n i : Nat} (h : i ≤ n) (o : Octets n) (rest : List UInt8) :
    (o.bytes ++ rest).drop i = o.bytes.drop i ++ rest := by
  rw [← o.length_eq] at h
  exact List.drop_append_of_le_length h

theorem bytes_eq_map_range_append {n k : Nat} (h : k ≤ n) (o : Octets n) :
    o.bytes = (List.range k).map o.byteAt ++ o.bytes.drop k := by
  induction k with
  | zero =>
      rfl
  | succ k ih =>
      have hfront := ih (Nat.le_of_succ_le h)
      rw [Octets.drop_eq_byteAt_cons h] at hfront
      rw [List.range_succ, List.map_append, List.append_assoc]
      exact hfront

end Octets

namespace Block

/-!
# Places of fields
-/

/-- Bytes begin with the fields of a block, each at its place. -/
structure IsLaidOut (block : Block) (bytes : List UInt8) : Prop where
  groupNumber : bytes[0]? = some block.groupNumber
  subtitleNumber : ∃ low high, bytes[1]? = some low ∧ bytes[2]? = some high ∧
    block.subtitleNumber.toNat = low.toNat + 256 * high.toNat
  extensionNumber : bytes[3]? = some block.extensionNumber
  cumulativeStatus : bytes[4]? = some block.cumulativeStatus
  timeIn : Timecode.ofBytes? (bytes.drop Layout.timeInOffset) = some block.timeIn
  timeOut : Timecode.ofBytes? (bytes.drop Layout.timeOutOffset) = some block.timeOut
  verticalPosition : bytes[Layout.verticalOffset]? = some block.verticalPosition
  justification : bytes[Layout.justificationOffset]? = some block.justification
  commentFlag : bytes[15]? = some block.commentFlag
  text : (bytes.drop Layout.textOffset).take Layout.textLength = block.text.bytes

theorem toNat_wordOf (low high : UInt8) :
    (wordOf low high).toNat = low.toNat + 256 * high.toNat := by
  have hlow := low.toNat_lt
  have hhigh := high.toNat_lt
  rw [wordOf, UInt16.toNat_ofNat']
  omega

theorem ofBytes?_drop {offset : Nat} (h : offset + 4 ≤ Layout.blockLength)
    (data : Octets Layout.blockLength) (rest : List UInt8) :
    Timecode.ofBytes? ((data.bytes ++ rest).drop offset) = some (timecodeAt data offset) := by
  rw [Octets.drop_bytes_append (by omega), Octets.drop_eq_byteAt_cons (by omega),
    Octets.drop_eq_byteAt_cons (by omega), Octets.drop_eq_byteAt_cons (by omega),
    Octets.drop_eq_byteAt_cons (by omega)]
  rfl

theorem isLaidOut_append (data : Octets Layout.blockLength) (rest : List UInt8) :
    IsLaidOut (ofOctets data) (data.bytes ++ rest) where
  groupNumber := Octets.getElem?_bytes_append (by decide) data rest
  subtitleNumber := ⟨data.byteAt 1, data.byteAt 2,
    Octets.getElem?_bytes_append (by decide) data rest,
    Octets.getElem?_bytes_append (by decide) data rest, toNat_wordOf _ _⟩
  extensionNumber := Octets.getElem?_bytes_append (by decide) data rest
  cumulativeStatus := Octets.getElem?_bytes_append (by decide) data rest
  timeIn := ofBytes?_drop (by decide) data rest
  timeOut := ofBytes?_drop (by decide) data rest
  verticalPosition := Octets.getElem?_bytes_append (by decide) data rest
  justification := Octets.getElem?_bytes_append (by decide) data rest
  commentFlag := Octets.getElem?_bytes_append (by decide) data rest
  text := by
    rw [Octets.drop_bytes_append (by decide), List.take_append_of_le_length]
    · rfl
    · rw [List.length_drop, data.length_eq]
      decide

theorem isLaidOut_ofOctets (data : Octets Layout.blockLength) :
    IsLaidOut (ofOctets data) data.bytes := by
  have hlaid := isLaidOut_append data []
  rwa [List.append_nil] at hlaid

namespace IsLaidOut

theorem le_length {block : Block} {bytes : List UInt8} (h : IsLaidOut block bytes) :
    Layout.blockLength ≤ bytes.length := by
  have hlength := congrArg List.length h.text
  rw [List.length_take, List.length_drop, block.text.length_eq] at hlength
  simp only [Layout.textOffset, Layout.textLength, Layout.blockLength] at hlength ⊢
  omega

theorem unique {block other : Block} {bytes : List UInt8} (h : IsLaidOut block bytes)
    (hother : IsLaidOut other bytes) : block = other := by
  have hnumber : block.subtitleNumber = other.subtitleNumber := by
    obtain ⟨low, high, hlow, hhigh, hblock⟩ := h.subtitleNumber
    obtain ⟨otherLow, otherHigh, hotherLow, hotherHigh, hothers⟩ := hother.subtitleNumber
    rw [hlow, Option.some.injEq] at hotherLow
    rw [hhigh, Option.some.injEq] at hotherHigh
    apply UInt16.toNat_inj.mp
    rw [hblock, hothers, hotherLow, hotherHigh]
  have htext : block.text = other.text := Octets.ext (h.text.symm.trans hother.text)
  obtain ⟨_, _, _, _, _, _, _, _, _, _⟩ := block
  rw [Block.mk.injEq]
  exact ⟨Option.mem_unique h.groupNumber hother.groupNumber, hnumber,
    Option.mem_unique h.extensionNumber hother.extensionNumber,
    Option.mem_unique h.cumulativeStatus hother.cumulativeStatus,
    Option.mem_unique h.timeIn hother.timeIn, Option.mem_unique h.timeOut hother.timeOut,
    Option.mem_unique h.verticalPosition hother.verticalPosition,
    Option.mem_unique h.justification hother.justification,
    Option.mem_unique h.commentFlag hother.commentFlag, htext⟩

end IsLaidOut

/-!
# Bytes of fields

What is read from a place is written to the same place.
-/

theorem ofNat_toNat_wordOf (low high : UInt8) :
    UInt8.ofNat ((wordOf low high).toNat % 256) = low ∧
      UInt8.ofNat ((wordOf low high).toNat / 256) = high := by
  have hlow := low.toNat_lt
  have hhigh := high.toNat_lt
  rw [toNat_wordOf]
  constructor
  · apply UInt8.toNat_inj.mp
    rw [UInt8.toNat_ofNat']
    omega
  · apply UInt8.toNat_inj.mp
    rw [UInt8.toNat_ofNat']
    omega

theorem toOctets_ofOctets (data : Octets Layout.blockLength) : (ofOctets data).toOctets = data := by
  have htext : (textOf data).bytes = data.bytes.drop Layout.textOffset := by
    apply List.take_of_length_le
    rw [List.length_drop, data.length_eq]
    decide
  obtain ⟨hlow, hhigh⟩ := ofNat_toNat_wordOf (data.byteAt 1) (data.byteAt 2)
  apply Octets.ext
  calc (ofOctets data).toOctets.bytes
      = (List.range Layout.textOffset).map data.byteAt ++ data.bytes.drop Layout.textOffset := by
        show (ofOctets data).toBytes = _
        rw [toBytes, ofOctets]
        dsimp only
        rw [hlow, hhigh, htext]
        rfl
    _ = data.bytes := (data.bytes_eq_map_range_append (by decide)).symm

/-!
# Byte strings of any length
-/

theorem ofBytes_of_lt {bytes : List UInt8} (h : bytes.length < Layout.blockLength) :
    ofBytes bytes = .error (.block Fault.endOfInput) := by
  rw [ofBytes, read_of_short (by rw [delivered_ofBytes]; exact h)]
  rfl

theorem ofBytes_append (data : Octets Layout.blockLength) (rest : List UInt8) :
    ofBytes (data.bytes ++ rest) = .ok (ofOctets data) := by
  have hfront : (data.bytes ++ rest).take Layout.blockLength = data.bytes :=
    List.take_left' data.length_eq
  have hlength : Layout.blockLength ≤ (Source.ofBytes (data.bytes ++ rest)).delivered.length := by
    rw [delivered_ofBytes, List.length_append, data.length_eq]
    exact Nat.le_add_right _ _
  obtain ⟨block, hread, hblock⟩ := read_of_enough hlength
  rw [delivered_ofBytes, hfront, ofBytes_octets] at hblock
  rw [ofBytes, hread]
  exact hblock.symm

/-- Bytes of full length begin with the bytes of a block. -/
theorem exists_octets_append {bytes : List UInt8} (h : Layout.blockLength ≤ bytes.length) :
    ∃ (data : Octets Layout.blockLength) (rest : List UInt8), bytes = data.bytes ++ rest :=
  ⟨⟨bytes.take Layout.blockLength, List.length_take_of_le h⟩, bytes.drop Layout.blockLength,
    (List.take_append_drop _ _).symm⟩

theorem ofBytes_eq_ok_iff (bytes : List UInt8) (block : Block) :
    ofBytes bytes = .ok block ↔ IsLaidOut block bytes := by
  constructor
  · intro hok
    rcases Nat.lt_or_ge bytes.length Layout.blockLength with hlt | hge
    · rw [ofBytes_of_lt hlt] at hok
      cases hok
    · obtain ⟨data, rest, rfl⟩ := exists_octets_append hge
      rw [ofBytes_append, Except.ok.injEq] at hok
      rw [← hok]
      exact isLaidOut_append data rest
  · intro hlaid
    obtain ⟨data, rest, rfl⟩ := exists_octets_append hlaid.le_length
    rw [ofBytes_append, hlaid.unique (isLaidOut_append data rest)]

theorem ofBytes_eq_error_iff (bytes : List UInt8) (error : ReadError) :
    ofBytes bytes = .error error ↔
      bytes.length < Layout.blockLength ∧ error = .block Fault.endOfInput := by
  rcases Nat.lt_or_ge bytes.length Layout.blockLength with hlt | hge
  · rw [ofBytes_of_lt hlt, Except.error.injEq, eq_comm]
    exact ⟨fun herror => ⟨hlt, herror⟩, And.right⟩
  · obtain ⟨data, rest, rfl⟩ := exists_octets_append hge
    rw [ofBytes_append]
    constructor
    · intro herror
      cases herror
    · intro herror
      exact absurd herror.1 (Nat.not_lt.mpr hge)

theorem ofBytes_take (bytes : List UInt8) :
    ofBytes (bytes.take Layout.blockLength) = ofBytes bytes := by
  rcases Nat.lt_or_ge bytes.length Layout.blockLength with hlt | hge
  · rw [List.take_of_length_le (Nat.le_of_lt hlt)]
  · obtain ⟨data, rest, rfl⟩ := exists_octets_append hge
    rw [List.take_left' data.length_eq, ofBytes_append, ofBytes_octets]

/-- A block and its bytes determine each other: the bytes are any of full length, the block is any
at all, and each field has its place. Shorter bytes are refused, and further ones are not read. -/
theorem ofBytes_iff_isLaidOut :
    (∀ (bytes : List UInt8) (block : Block), ofBytes bytes = .ok block ↔ IsLaidOut block bytes) ∧
      (∀ bytes : List UInt8,
        (∃ block, ofBytes bytes = .ok block) ↔ Layout.blockLength ≤ bytes.length) ∧
      (∀ (bytes : List UInt8) (error : ReadError), ofBytes bytes = .error error ↔
        bytes.length < Layout.blockLength ∧ error = .block Fault.endOfInput) ∧
      (∀ bytes : List UInt8, ofBytes bytes = ofBytes (bytes.take Layout.blockLength)) ∧
      (∀ data other : Octets Layout.blockLength,
        ofBytes data.bytes = ofBytes other.bytes ↔ data = other) ∧
      (∀ block : Block, ∃ data : Octets Layout.blockLength,
        data.bytes = block.toBytes ∧ ofBytes data.bytes = .ok block) := by
  refine ⟨ofBytes_eq_ok_iff, ?_, ofBytes_eq_error_iff, fun bytes => (ofBytes_take bytes).symm,
    ?_, ?_⟩
  · intro bytes
    constructor
    · rintro ⟨block, hok⟩
      exact ((ofBytes_eq_ok_iff bytes block).mp hok).le_length
    · intro hge
      obtain ⟨data, rest, rfl⟩ := exists_octets_append hge
      exact ⟨ofOctets data, ofBytes_append data rest⟩
  · intro data other
    constructor
    · intro hsame
      rw [ofBytes_octets, ofBytes_octets, Except.ok.injEq] at hsame
      rw [← toOctets_ofOctets data, hsame, toOctets_ofOctets]
    · intro hsame
      rw [hsame]
  · intro block
    exact ⟨block.toOctets, rfl, by rw [ofBytes_octets, ofOctets_toOctets]⟩

end Block
end SubtitleExchange
