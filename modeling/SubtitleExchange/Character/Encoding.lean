import SubtitleExchange.Character.Set

/-!
# Encoded ranges

A character is encoded in one to four bytes, and the last bytes hold its number six bits each. A range
is cut so that all characters of a piece have as many bytes and that each byte of a piece runs through
a range of its own, whatever the others are.
-/

namespace SubtitleExchange

structure ByteRange where
  first : Nat
  last : Nat
deriving DecidableEq

namespace CharRange

def bytes (c : Nat) : List UInt8 :=
  String.utf8EncodeChar (Char.ofNat c)

/-!
# Cutting
-/

/-- The last code points before the surrogates and of each length, but for the greatest length. -/
def boundaries : List Nat := [0x7F, 0x7FF, 0xD7FF, 0xFFFF]

/-- The parts of a range on both sides of a boundary. -/
def cutBehind (boundary : Nat) (range : CharRange) : List CharRange :=
  if range.first ≤ boundary && boundary < range.last then
    [⟨range.first, boundary⟩, ⟨boundary + 1, range.last⟩]
  else
    [range]

/-- Surrogates have no encoding. -/
def withoutSurrogates (range : CharRange) : List CharRange :=
  if 0xD800 ≤ range.first && range.first ≤ 0xDFFF then
    if 0xE000 ≤ range.last then [⟨0xE000, range.last⟩] else []
  else
    [range]

/-- A range that reaches into several blocks of a size is cut so that only its first and last pieces
are parts of blocks. -/
def cutBlocks (size : Nat) (range : CharRange) : List CharRange :=
  let firstBlock := range.first / size
  let lastBlock := range.last / size
  if firstBlock = lastBlock then
    [range]
  else
    let isCutBefore := range.first % size != 0
    let isCutBehind := (range.last + 1) % size != 0
    let wholeFirst := if isCutBefore then (firstBlock + 1) * size else range.first
    let wholeEnd := if isCutBehind then lastBlock * size else range.last + 1
    let before : List CharRange :=
      if isCutBefore then [⟨range.first, wholeFirst - 1⟩] else []
    let whole : List CharRange :=
      if wholeFirst < wholeEnd then [⟨wholeFirst, wholeEnd - 1⟩] else []
    let behind : List CharRange :=
      if isCutBehind then [⟨wholeEnd, range.last⟩] else []
    before ++ whole ++ behind

/-- Blocks of characters that differ in the last byte alone, or in the last two or three. -/
def blockSizes : List Nat := [0x40, 0x1000, 0x40000]

def cutOneLength (range : CharRange) : List CharRange :=
  if range.last ≤ 0x7F then
    [range]
  else
    blockSizes.foldl (fun pieces size => pieces.flatMap (cutBlocks size)) [range]

def pieces (range : CharRange) : List CharRange :=
  let cut := boundaries.foldl (fun parts boundary => parts.flatMap (cutBehind boundary)) [range]
  (cut.flatMap withoutSurrogates).flatMap cutOneLength

/-!
# Byte ranges
-/

/-- The ranges of the bytes of a piece, in the order of the bytes. -/
def byteRanges (piece : CharRange) : List ByteRange :=
  List.zipWith (fun first last => ⟨first.toNat, last.toNat⟩) (bytes piece.first) (bytes piece.last)

def encodings (range : CharRange) : List (List ByteRange) :=
  range.pieces.map byteRanges

end CharRange

/-- The encodings of the characters of a set, in their order. -/
def CharSet.encodings (set : CharSet) : List (List ByteRange) :=
  set.ranges.flatMap CharRange.encodings

end SubtitleExchange
