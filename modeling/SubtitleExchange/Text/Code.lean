import SubtitleExchange.Text.Color

/-!
# Codes of a text field

What one byte of a text field does. Two codes lie among the printable bytes and come before them:
the line break and the terminator.
-/

namespace SubtitleExchange

inductive Code where
  | lineBreak
  | terminator
  | foreground (color : Color)
  | background (color : Color)
  | printable (byte : UInt8)
  | ignored
deriving DecidableEq

namespace Code

def lineBreakByte : UInt8 := 0x8A

def terminatorByte : UInt8 := 0x8F

/-- The least byte that can be printed. -/
def firstPrintable : UInt8 := 0x20

def ofByte (b : UInt8) : Code :=
  if b = lineBreakByte then .lineBreak
  else if b = terminatorByte then .terminator
  else if b ≤ 0x07 then .foreground (Color.ofCode b)
  else if 0x10 ≤ b ∧ b ≤ 0x17 then .background (Color.ofCode b)
  else if firstPrintable ≤ b then .printable b
  else .ignored

end Code
end SubtitleExchange
