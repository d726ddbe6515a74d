import SubtitleExchange.Text.Field

/-!
# Writing text fields

A line is written as its two colour codes and its text. An accented letter is written as a marker and
a base letter even where its own byte would do, so that no byte of the text can be taken for a marker
except those of a letter that has no marked form.
-/

namespace SubtitleExchange

namespace Repertoire

/-- The marker and the base letter of an accented letter. -/
def pairOf? (c : Char) : Option (UInt8 × UInt8) :=
  Accent.all.findSome? fun accent => do
    let i ← accent.forms.idxOf? c
    let base ← Accent.bases[i]?
    return (accent.marker, base)

def encodeCharacter (c : Char) : List UInt8 :=
  match pairOf? c with
  | some (marker, base) => [marker, base]
  | none => [UInt8.ofNat c.toNat]

def encode (cs : List Char) : List UInt8 :=
  cs.flatMap encodeCharacter

/-- The characters that a text field can show. The two that are missing are control codes there. -/
def isShown (c : Char) : Bool :=
  Code.firstPrintable.toNat ≤ c.toNat && c.toNat ≤ 0xFF
    && c.toNat != Code.lineBreakByte.toNat && c.toNat != Code.terminatorByte.toNat

/-- The letter whose byte is the circumflex marker has no marked form. -/
def isLoneMarker (c : Char) : Bool :=
  c.toNat == Accent.circumflex.marker.toNat

def isBase (c : Char) : Bool :=
  Accent.bases.any fun b => b.toNat == c.toNat

/-- No letter that would be taken for a marker stands before a base letter. -/
def unmarked : List Char → Bool
  | a :: b :: rest => !(isLoneMarker a && isBase b) && unmarked (b :: rest)
  | _ => true

def isExpressible (cs : List Char) : Bool :=
  cs.all isShown && unmarked cs

end Repertoire

namespace Field

def encodeLine (line : Line) : List UInt8 :=
  line.foreground.code :: (0x10 ||| line.background.code) :: Repertoire.encode line.text.toList

def encode (lines : List Line) : List UInt8 :=
  [Code.lineBreakByte].intercalate (lines.map encodeLine)

end Field
end SubtitleExchange
