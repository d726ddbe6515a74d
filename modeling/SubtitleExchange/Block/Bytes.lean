import SubtitleExchange.Block.Basic

/-!
# Blocks as bytes

The fields of a block stand at fixed places in its 128 bytes. The subtitle number has its low byte
first.
-/

namespace SubtitleExchange

def Octets.byteAt {n : Nat} (o : Octets n) (i : Nat) : UInt8 :=
  o.bytes.getD i 0

theorem Octets.drop_eq_byteAt_cons {n i : Nat} (h : i < n) (o : Octets n) :
    o.bytes.drop i = o.byteAt i :: o.bytes.drop (i + 1) := by
  have hlength : i < o.bytes.length := Nat.lt_of_lt_of_eq h o.length_eq.symm
  rw [List.drop_eq_getElem_cons hlength, byteAt, List.getD_eq_getElem?_getD,
    List.getElem?_eq_getElem hlength, Option.getD_some]

namespace Block

def timecodeAt (data : Octets Layout.blockLength) (offset : Nat) : Timecode :=
  ⟨data.byteAt offset, data.byteAt (offset + 1), data.byteAt (offset + 2), data.byteAt (offset + 3)⟩

def textOf (data : Octets Layout.blockLength) : Octets Layout.textLength where
  bytes := (data.bytes.drop Layout.textOffset).take Layout.textLength
  length_eq := by
    rw [List.length_take, List.length_drop, data.length_eq]
    rfl

def wordOf (low high : UInt8) : UInt16 :=
  UInt16.ofNat (low.toNat + 256 * high.toNat)

def ofOctets (data : Octets Layout.blockLength) : Block where
  groupNumber := data.byteAt 0
  subtitleNumber := wordOf (data.byteAt 1) (data.byteAt 2)
  extensionNumber := data.byteAt 3
  cumulativeStatus := data.byteAt 4
  timeIn := timecodeAt data Layout.timeInOffset
  timeOut := timecodeAt data Layout.timeOutOffset
  verticalPosition := data.byteAt Layout.verticalOffset
  justification := data.byteAt Layout.justificationOffset
  commentFlag := data.byteAt 15
  text := textOf data

def toBytes (block : Block) : List UInt8 :=
  [block.groupNumber,
    UInt8.ofNat (block.subtitleNumber.toNat % 256), UInt8.ofNat (block.subtitleNumber.toNat / 256),
    block.extensionNumber, block.cumulativeStatus]
    ++ block.timeIn.toBytes ++ block.timeOut.toBytes
    ++ [block.verticalPosition, block.justification, block.commentFlag] ++ block.text.bytes

def toOctets (block : Block) : Octets Layout.blockLength where
  bytes := block.toBytes
  length_eq := by simp [toBytes, Timecode.toBytes, block.text.length_eq]

theorem wordOf_split (w : UInt16) :
    wordOf (UInt8.ofNat (w.toNat % 256)) (UInt8.ofNat (w.toNat / 256)) = w := by
  have hw := w.toNat_lt
  apply UInt16.toNat_inj.mp
  simp only [wordOf, UInt8.toNat_ofNat', UInt16.toNat_ofNat']
  omega

theorem ofOctets_toOctets (block : Block) : ofOctets block.toOctets = block := by
  obtain ⟨groupNumber, subtitleNumber, extensionNumber, cumulativeStatus, timeIn, timeOut,
    verticalPosition, justification, commentFlag, text⟩ := block
  have htext : text.bytes.take Layout.textLength = text.bytes :=
    List.take_of_length_le (Nat.le_of_eq text.length_eq)
  simp [ofOctets, toOctets, toBytes, Timecode.toBytes, Octets.byteAt, timecodeAt, textOf,
    Layout.timeInOffset, Layout.timeOutOffset, Layout.verticalOffset,
    Layout.justificationOffset, Layout.textOffset, wordOf_split, htext]

end Block
end SubtitleExchange
