import Mathlib.Data.List.Defs
import SubtitleExchange.Command.Dump
import SubtitleExchange.Cue.Markup
import SubtitleExchange.Script.Event

/-!
# Reading a dump

A dump is read back from its text alone. An empty line ends a record, which has a heading and fields
with their names. The lines with the bytes of the blocks can be taken out of a dump, or be read.
-/

namespace SubtitleExchange
namespace Command

/-- What a record tells about the cue of its block. Times are counted in milliseconds. -/
structure Listing where
  start : Int
  duration : Int
  grid : Nat
  lines : List Line
deriving DecidableEq

namespace Listing

def ofRecord (record : Dump.Record) : Listing where
  start := record.packet.start.toInt
  duration := record.packet.duration.toInt
  grid := record.block.alignment.grid
  lines := record.block.lines

/-!
# Fields
-/

/-- The name and the value in a line that shows a field. -/
def field? (line : List Char) : Option (List Char × List Char) := do
  let inner ← line.dropPrefix? "  ".toList
  let (name, rest) ← Cut.first ' ' inner
  let value ← rest.dropPrefix? "= ".toList
  return (name, value)

def headingTime? (line : List Char) : Option Int := do
  let inner ← line.dropPrefix? "tti_block(".toList
  let (time, _) ← Cut.first ')' inner
  Clock.read? (String.ofList time)

def duration? (value : List Char) : Option Int :=
  Clock.read? (String.ofList value)

/-- The number behind the names of an alignment. -/
def grid? (value : List Char) : Option Nat := do
  let (_, inner) ← Cut.first '(' value
  let (digits, _) ← Cut.first ')' inner
  Decimal.value? digits

def line? (value : List Char) : Option Line := do
  let (text, rest) ← Quoted.read? value
  let inner ← rest.dropPrefix? " (".toList
  let (foreground, rest) ← Cut.first ' ' inner
  let inner ← rest.dropPrefix? "on ".toList
  let (background, _) ← Cut.first ')' inner
  return ⟨String.ofList text, ← Color.named? foreground, ← Color.named? background⟩

def isTextLine (field : List Char × List Char) : Bool :=
  "line[".toList.isPrefixOf field.1

/-!
# Records
-/

def read? : List (List Char) → Option Listing
  | [] => none
  | heading :: rest => do
      let fields := rest.filterMap field?
      let start ← headingTime? heading
      let duration ← (fields.lookup "duration".toList).bind duration?
      let grid ← (fields.lookup "alignment".toList).bind grid?
      let lines ← (fields.filter isTextLine).mapM fun field => line? field.2
      return ⟨start, duration, grid, lines⟩

def readAll? (text : String) : Option (List Listing) :=
  (Physical.paragraphs text).mapM read?

/-!
# What a record comes to in a script
-/

def hasText (listing : Listing) : Bool :=
  Line.hasVisible listing.lines

def markup (listing : Listing) : String :=
  Markup.override ("\\an" ++ toString listing.grid ++ "\\bord" ++ toString Markup.outlineWidth)
    ++ Markup.separator.intercalate ((Line.visible listing.lines).map Markup.line)

def dialogue (listing : Listing) : String :=
  Script.dialogue (Int64.ofInt listing.start) (Int64.ofInt (listing.start + listing.duration))
    listing.markup

def dialogues (listing : Listing) : List String :=
  if listing.hasText then [listing.dialogue] else []

end Listing

namespace Dump

/-!
# The bytes of the blocks
-/

/-- What stands behind the name in a line that begins like one with bytes. -/
def shownBytes? (line : List Char) : Option (List Char) :=
  line.dropPrefix? "  hex = ".toList

def withoutBytes (text : String) : String :=
  String.ofList (['\n'].intercalate
    ((Physical.parts text).filter fun line => (shownBytes? line).isNone))

/-- The bytes of all such lines, one line after the other. -/
def bytes? (text : String) : Option (List UInt8) := do
  let blocks ← ((Physical.parts text).filterMap shownBytes?).mapM fun pairs =>
    Hex.read? (String.ofList pairs)
  return blocks.flatten

end Dump
end Command
end SubtitleExchange
