import SubtitleExchange.Proofs.Session.Units
import SubtitleExchange.Proofs.Text.Reading

/-!
# What decoding depends on

Of a block, its place in the picture and the relevant bytes of its text field decide what a session
makes of it. Its other fields, ignored codes, and what stands behind the terminator can be anything.
-/

namespace SubtitleExchange
namespace Field

/-!
# Relevant bytes

Ignored codes stand behind the colours in both of their ranges. The bytes that are left of a field
without them and without what its terminator cuts off are scanned to the same lines.
-/

def isIgnored (b : UInt8) : Bool :=
  (0x08 ≤ b && b ≤ 0x0F) || (0x18 ≤ b && b ≤ 0x1F)

def relevant (field : List UInt8) : List UInt8 :=
  (content field).filter fun b => !isIgnored b

theorem relevant_cons_terminator (rest : List UInt8) :
    relevant (Code.terminatorByte :: rest) = [] := by
  rw [relevant, content_cons_terminator, List.filter_nil]

theorem relevant_cons_ignored {b : UInt8} (hignored : isIgnored b = true) (rest : List UInt8) :
    relevant (b :: rest) = relevant rest := by
  have hterminator : b ≠ Code.terminatorByte := by
    rintro rfl
    cases hignored
  rw [relevant, content_cons hterminator, List.filter_cons_of_neg]
  · rfl
  · simp [hignored]

theorem relevant_cons {b : UInt8} (hterminator : b ≠ Code.terminatorByte)
    (hignored : isIgnored b = false) (rest : List UInt8) :
    relevant (b :: rest) = b :: relevant rest := by
  rw [relevant, content_cons hterminator, List.filter_cons_of_pos]
  · rfl
  · simp [hignored]

theorem gather_of_ignored {b : UInt8} (hignored : isIgnored b = true) (pending : Pending) :
    pending.gather b = pending := by
  have hranges : isForeground b = false ∧ isBackground b = false ∧ isPrintable b = false := by
    simp only [isIgnored, isForeground, isBackground, isPrintable, Code.firstPrintable,
      UInt8.le_iff_toNat_le, UInt8.reduceToNat, Bool.or_eq_true, Bool.and_eq_true,
      Bool.and_eq_false_iff, decide_eq_true_eq, decide_eq_false_iff_not] at hignored ⊢
    omega
  obtain ⟨hforeground, hbackground, hprintable⟩ := hranges
  simp [Pending.gather, hforeground, hbackground, hprintable]

/-- Also in the middle of a line, where a marker may wait for its base letter, an ignored code
changes nothing of what was gathered. -/
theorem scan_relevant (pending : Pending) (field : List UInt8) :
    scan pending (relevant field) = scan pending field := by
  induction field generalizing pending with
  | nil =>
      rfl
  | cons b rest ih =>
      by_cases hterminator : b = Code.terminatorByte
      · subst hterminator
        have hcode : Code.ofByte Code.terminatorByte = .terminator := rfl
        rw [relevant_cons_terminator, scan, scan, hcode]
      · by_cases hbreak : b = Code.lineBreakByte
        · subst hbreak
          have hcode : Code.ofByte Code.lineBreakByte = .lineBreak := rfl
          rw [relevant_cons hterminator rfl, scan, scan, hcode]
          exact congrArg (List.cons pending.line) (ih Pending.start)
        · rw [scan_cons hbreak hterminator pending rest]
          cases hignored : isIgnored b with
          | true =>
              rw [relevant_cons_ignored hignored, gather_of_ignored hignored, ih]
          | false =>
              rw [relevant_cons hterminator hignored, scan_cons hbreak hterminator, ih]

theorem lines_relevant (field : List UInt8) : lines (relevant field) = lines field :=
  scan_relevant Pending.start field

end Field

namespace Session

/-!
# Blocks that are decoded alike

The cue of a block is made from its lines and its place, and a session asks for nothing else.
-/

section

variable {a b : Octets Layout.blockLength}

theorem cueOfBlock?_of_relevant
    (hplace : Alignment.resolve (a.byteAt Layout.justificationOffset)
        (a.byteAt Layout.verticalOffset) =
      Alignment.resolve (b.byteAt Layout.justificationOffset) (b.byteAt Layout.verticalOffset))
    (htext : Field.relevant (Block.textOf a).bytes = Field.relevant (Block.textOf b).bytes)
    (start duration : Int64) :
    cueOfBlock? start duration a = cueOfBlock? start duration b := by
  have hlines : (Block.ofOctets a).lines = (Block.ofOctets b).lines := by
    calc (Block.ofOctets a).lines
        = Field.lines (Field.relevant (Block.textOf a).bytes) :=
          (Field.lines_relevant (Block.textOf a).bytes).symm
      _ = Field.lines (Field.relevant (Block.textOf b).bytes) := by rw [htext]
      _ = (Block.ofOctets b).lines := Field.lines_relevant (Block.textOf b).bytes
  have halignment : (Block.ofOctets a).alignment = (Block.ofOctets b).alignment := hplace
  rw [cueOfBlock?, cueOfBlock?, Block.cue?, Block.cue?, hlines, halignment]

/-- Two blocks at the same place whose relevant bytes are the same give the same subtitle, or both
give none, and leave the same session. -/
theorem decode_of_relevant (session : Session) (start duration : Int64)
    (hplace : Alignment.resolve (a.byteAt Layout.justificationOffset)
        (a.byteAt Layout.verticalOffset) =
      Alignment.resolve (b.byteAt Layout.justificationOffset) (b.byteAt Layout.verticalOffset))
    (htext : Field.relevant (Block.textOf a).bytes = Field.relevant (Block.textOf b).bytes) :
    (session.decode a.bytes start duration).value =
        (session.decode b.bytes start duration).value ∧
      (session.decode a.bytes start duration).session =
        (session.decode b.bytes start duration).session := by
  have hcue := cueOfBlock?_of_relevant hplace htext start duration
  have hcues : cuesOf start duration a.bytes = cuesOf start duration b.bytes := by
    rw [cuesOf_bytes, cuesOf_bytes, hcue]
  constructor
  · rw [value_decode, value_decode, hcues]
  · rw [session_decode, session_decode, hcues]

end

/-- An accented letter in red, at the bottom centre. -/
def bareBlock : Octets Layout.blockLength where
  bytes := List.replicate Layout.textOffset 0 ++ [0x01, 0xC2, 0x65] ++
    List.replicate 109 Code.terminatorByte
  length_eq := rfl

/-- The same with other numbers, timecodes and codes of the place, with ignored codes inside of the
letter, and with a break, a colour and a text behind the terminator. -/
def strewnBlock : Octets Layout.blockLength where
  bytes := List.replicate Layout.verticalOffset 0x42 ++ [7, 2, 1] ++
    [0x0B, 0x01, 0xC2, 0x08, 0x1F, 0x65, 0x18, Code.terminatorByte, Code.lineBreakByte, 0x02] ++
    List.replicate 102 0x78
  length_eq := rfl

theorem decode_of_relevant_strewnBlock :
    Alignment.resolve (bareBlock.byteAt Layout.justificationOffset)
        (bareBlock.byteAt Layout.verticalOffset) =
      Alignment.resolve (strewnBlock.byteAt Layout.justificationOffset)
        (strewnBlock.byteAt Layout.verticalOffset) ∧
    Field.relevant (Block.textOf bareBlock).bytes =
      Field.relevant (Block.textOf strewnBlock).bytes ∧
    (Block.ofOctets strewnBlock).lines = [⟨"é", .red, .black⟩] ∧
    let session : Session := ⟨TimeBase.milliseconds, PictureSize.standard, 7⟩
    (session.decode bareBlock.bytes 1000 2000).value =
        (session.decode strewnBlock.bytes 1000 2000).value ∧
      (session.decode bareBlock.bytes 1000 2000).session =
        (session.decode strewnBlock.bytes 1000 2000).session := by
  have hplace : Alignment.resolve (bareBlock.byteAt Layout.justificationOffset)
      (bareBlock.byteAt Layout.verticalOffset) =
    Alignment.resolve (strewnBlock.byteAt Layout.justificationOffset)
      (strewnBlock.byteAt Layout.verticalOffset) := by decide
  have htext : Field.relevant (Block.textOf bareBlock).bytes =
      Field.relevant (Block.textOf strewnBlock).bytes := by decide
  exact ⟨hplace, htext, by decide, decode_of_relevant _ 1000 2000 hplace htext⟩

end Session
end SubtitleExchange
