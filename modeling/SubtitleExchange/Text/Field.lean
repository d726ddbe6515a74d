import SubtitleExchange.Text.Code
import SubtitleExchange.Text.Line
import SubtitleExchange.Text.Repertoire

/-!
# Text fields

A text field is scanned from left to right up to its terminator. The scan gathers the bytes of the
line it is in and the colours that were last set for it; a line break hands the line over and starts
the next one without text, white on black. The line that is open at the end is always handed over.
-/

namespace SubtitleExchange
namespace Field

/-- The line being gathered, its bytes latest first. -/
structure Pending where
  latest : List UInt8
  foreground : Color
  background : Color
deriving DecidableEq

namespace Pending

def start : Pending := ⟨[], .white, .black⟩

def line (pending : Pending) : Line where
  text := Repertoire.text pending.latest.reverse
  foreground := pending.foreground
  background := pending.background

end Pending

def scan (pending : Pending) : List UInt8 → List Line
  | [] => [pending.line]
  | b :: rest =>
      match Code.ofByte b with
      | .lineBreak => pending.line :: scan Pending.start rest
      | .terminator => [pending.line]
      | .foreground color => scan { pending with foreground := color } rest
      | .background color => scan { pending with background := color } rest
      | .printable byte => scan { pending with latest := byte :: pending.latest } rest
      | .ignored => scan pending rest

def lines (field : List UInt8) : List Line :=
  scan Pending.start field

theorem scan_ne_nil (pending : Pending) (field : List UInt8) : scan pending field ≠ [] := by
  induction field generalizing pending with
  | nil =>
      simp [scan]
  | cons b rest ih =>
      rw [scan]
      split <;> simp [ih]

end Field
end SubtitleExchange
