import SubtitleExchange.Script.Time
import SubtitleExchange.Text.Physical

/-!
# Scripts

A script opens with a header, which names the size of the picture, the one style and the fields of
an event. After it comes one line for each event.
-/

namespace SubtitleExchange
namespace Script

def styleName : String := "Default"

/-- The fields of an event, in the order in which a dialogue line writes them. -/
def eventFields : List String :=
  ["Layer", "Start", "End", "Style", "Name", "MarginL", "MarginR", "MarginV", "Effect", "Text"]

def styleFields : List String :=
  ["Name", "Fontname", "Fontsize", "PrimaryColour", "SecondaryColour", "OutlineColour",
    "BackColour", "Bold", "Italic", "Underline", "StrikeOut", "ScaleX", "ScaleY", "Spacing",
    "Angle", "BorderStyle", "Outline", "Shadow", "Alignment", "MarginL", "MarginR", "MarginV",
    "Encoding"]

/-- The values of the one style, in the order of `styleFields`. -/
def styleValues : List String :=
  [styleName, "Arial", "30", "&H00FFFFFF", "&H000000FF", "&H00000000", "&H00000000",
    "0", "0", "0", "0", "100", "100", "0", "0", "1", "1", "1", "2", "10", "10", "10", "1"]

def headerLines (width height : UInt32) : List String :=
  ["[Script Info]",
    "; Script generated by stl",
    "ScriptType: v4.00+",
    "PlayResX: " ++ toString width.toNat,
    "PlayResY: " ++ toString height.toNat,
    "ScaledBorderAndShadow: yes",
    "YCbCr Matrix: None",
    "",
    "[V4+ Styles]",
    "Format: " ++ ", ".intercalate styleFields,
    "Style: " ++ ",".intercalate styleValues,
    "",
    "[Events]",
    "Format: " ++ ", ".intercalate eventFields]

def header (width height : UInt32) : String :=
  Physical.text (headerLines width height)

def dialogue (start stop : Int64) (text : String) : String :=
  "Dialogue: " ++ ",".intercalate
    ["0", timeText start, timeText stop, styleName, "", "0", "0", "0", "", text]

/-- The fields of an event line, the last of which may hold commas. -/
def fieldsOf (line : List Char) : List (List Char) :=
  Cut.upTo ',' (eventFields.length - 1) line

end Script
end SubtitleExchange
