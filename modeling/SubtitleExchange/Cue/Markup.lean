import SubtitleExchange.Cue.Basic
import SubtitleExchange.Hex

/-!
# Markup of a cue

A cue becomes one text: an override block with the place and the width of the outline, then the
lines shown, each after an override block with its two colours, with a line separator between two.
-/

namespace SubtitleExchange
namespace Markup

/-- Colours are written with the blue part first. -/
def colorValue (color : Color) : String :=
  let (red, green, blue) := color.rgb
  "&H" ++ Hex.pair blue ++ Hex.pair green ++ Hex.pair red ++ "&"

def fillTag (color : Color) : String :=
  "\\c" ++ colorValue color

def outlineTag (color : Color) : String :=
  "\\3c" ++ colorValue color

def outlineWidth : Nat := 3

def separator : String := "\\N"

/-- Tags between braces apply to the text that follows them. -/
def override (tags : String) : String :=
  "\x7b" ++ tags ++ "\x7d"

def opening (alignment : Alignment) : String :=
  override ("\\an" ++ toString alignment.grid ++ "\\bord" ++ toString outlineWidth)

def line (line : Line) : String :=
  override (fillTag line.foreground ++ outlineTag line.background) ++ line.text

end Markup

def Cue.markup (cue : Cue) : String :=
  Markup.opening cue.alignment ++ Markup.separator.intercalate (cue.visibleLines.map Markup.line)

end SubtitleExchange
