import SubtitleExchange.Character.Case
import SubtitleExchange.Character.Script

/-!
# Breaks in text

The classes of characters that decide where a text may be cut: between what a reader takes for one
character, between words, and between sentences. They are those of the Unicode standard, version 16.
-/

namespace SubtitleExchange

namespace CharSet

def graphemeExtend : CharSet := unionAll [enclosingMark, nonspacingMark, otherGraphemeExtend]

/-- Characters that go with the one before them. -/
def extending : CharSet := graphemeExtend.union emojiModifier

def defaultIgnorable : CharSet :=
  (unionAll [otherDefaultIgnorable, format, variationSelector]).difference
    (unionAll [whiteSpace, .ofTable ["FFF9-FFFB 13430-13440"], prependedConcatenationMark])

def lineFeed : CharSet := single 0xA

def carriageReturn : CharSet := single 0xD

def zeroWidthJoiner : CharSet := single 0x200D

end CharSet

/-!
# Graphemes

Syllables of Hangul are built from a leading consonant, a vowel and perhaps a trailing consonant. In
their order, every 28th has no trailing consonant.
-/

namespace GraphemeBreak

open CharSet

def leading : CharSet := .ofTable ["1100-115F A960-A97C"]

def vowel : CharSet := .ofTable ["1160-11A7 D7B0-D7C6 16D63 16D67-16D6A"]

def trailing : CharSet := .ofTable ["11A8-11FF D7CB-D7FB"]

def openSyllable : CharSet :=
  ⟨(List.range 399).map fun n => CharRange.single (0xAC00 + 28 * n)⟩

def closedSyllable : CharSet := (CharSet.ofTable ["AC00-D7A3"]).difference openSyllable

def prependedLetter : CharSet :=
  .ofTable
    ["D4E 111C2-111C3 113D1 1193F 11941 11A3A 11A84-11A89 11D46 11F02"]

def prepended : CharSet := prependedConcatenationMark.union prependedLetter

/-- Marks that stand on their own. -/
def ownPlaced : CharSet :=
  .ofTable
    ["102B-102C 1038 1062-1064 1067-106D 1083 1087-108C 108F 109A-109C 1A61 1A63-1A64 AA7B AA7D",
      "11720-11721"]

def spacing : CharSet :=
  (spacingMark.union (.ofTable ["E33 EB3"])).difference (unionAll [extending, prepended, ownPlaced])

def controls : CharSet :=
  (unionAll [lineSeparator, paragraphSeparator, control, format,
    defaultIgnorable.intersection unassigned]).difference
      (unionAll [lineFeed, carriageReturn, extending, zeroWidthJoiner, prepended])

def sets : List NamedSet :=
  [⟨["CN", "Control"], controls⟩, ⟨["CR"], carriageReturn⟩, ⟨["EX", "Extend"], extending⟩,
   ⟨["L"], leading⟩, ⟨["LF"], lineFeed⟩, ⟨["LV"], openSyllable⟩, ⟨["LVT"], closedSyllable⟩,
   ⟨["PP", "Prepend"], prepended⟩, ⟨["RI", "Regional_Indicator"], regionalIndicator⟩,
   ⟨["SM", "SpacingMark"], spacing⟩, ⟨["T"], trailing⟩, ⟨["V"], vowel⟩, ⟨["ZWJ"], zeroWidthJoiner⟩]

end GraphemeBreak

/-!
# Words

Scripts that are written without spaces between words have letters that take a dictionary to break.
-/

namespace WordBreak

open CharSet

def midLetter : CharSet := .ofTable ["3A B7 387 55F 5F4 2027 FE13 FE55 FF1A"]

def midNumber : CharSet := .ofTable ["2C 3B 37E 589 60C-60D 66C 7F8 2044 FE50 FE54 FF0C FF1B"]

def midLetterOrNumber : CharSet := .ofTable ["2E 2018-2019 2024 FE52 FF07 FF0E"]

def newline : CharSet := .ofTable ["B-C 85 2028-2029"]

def singleQuote : CharSet := single 0x27

def doubleQuote : CharSet := single 0x22

def spaces : CharSet := spaceSeparator.difference (.ofTable ["A0 2007 202F"])

def extended : CharSet := extending.union spacingMark

def joining : CharSet := connectorPunctuation.union (single 0x202F)

def numeric : CharSet :=
  decimalNumber.union (.ofTable ["600-605 66B 6DD 890-891 8E2 19DA 110BD 110CD"])

def formatting : CharSet :=
  format.difference (unionAll [extended, numeric, zeroWidthJoiner, .ofTable ["70F 200B"]])

def katakana : CharSet :=
  (Script.charsOf "Katakana").union (.ofTable ["3031-3035 309B-309C 30A0 30FC FF70"])

def hebrewLetter : CharSet := (Script.charsOf "Hebrew").intersection otherLetter

def dictionaryLetter : CharSet :=
  .ofTable
    ["E01-E30 E32-E33 E40-E46 E81-E82 E84 E86-E8A E8C-EA3 EA5 EA7-EB0 EB2-EB3 EBD EC0-EC4 EC6",
      "EDC-EDF 1000-102A 103F 1050-1055 105A-105D 1061 1065-1066 106E-1070 1075-1081 108E",
      "1780-17B3 17D7 17DC 1950-196D 1970-1974 1980-19AB 19B0-19C9 1A20-1A54 1AA7 A9E0-A9E4",
      "A9E6-A9EF A9FA-A9FE AA60-AA76 AA7A AA7E-AAAF AAB1 AAB5-AAB6 AAB9-AABD AAC0 AAC2 AADB-AADD",
      "11700-1171A 11740-11746"]

def letterLike : CharSet :=
  .ofTable
    ["2C2-2C5 2D2-2D7 2DE-2DF 2E5-2EB 2ED 2EF-2FF 55A-55C 55E 58A 5F3 70F A708-A716 A720-A721",
      "A789-A78A AB5B"]

def alphabeticLetter : CharSet :=
  (alphabetic.difference
    (unionAll [ideographic, katakana, Script.charsOf "Hiragana", extended, hebrewLetter,
      dictionaryLetter])).union letterLike

def sets : List NamedSet :=
  [⟨["CR"], carriageReturn⟩, ⟨["DQ", "Double_Quote"], doubleQuote⟩,
   ⟨["EX", "ExtendNumLet"], joining⟩, ⟨["Extend"], extended⟩, ⟨["FO", "Format"], formatting⟩,
   ⟨["HL", "Hebrew_Letter"], hebrewLetter⟩, ⟨["KA", "Katakana"], katakana⟩,
   ⟨["LE", "ALetter"], alphabeticLetter⟩, ⟨["LF"], lineFeed⟩,
   ⟨["MB", "MidNumLet"], midLetterOrNumber⟩, ⟨["ML", "MidLetter"], midLetter⟩,
   ⟨["MN", "MidNum"], midNumber⟩, ⟨["NL", "Newline"], newline⟩, ⟨["NU", "Numeric"], numeric⟩,
   ⟨["RI", "Regional_Indicator"], regionalIndicator⟩, ⟨["SQ", "Single_Quote"], singleQuote⟩,
   ⟨["WSegSpace"], spaces⟩, ⟨["ZWJ"], zeroWidthJoiner⟩]

end WordBreak

/-!
# Sentences

Georgian letters of both kinds count as letters without case.
-/

namespace SentenceBreak

open CharSet

def georgian : CharSet := .ofTable ["10D0-10FA 10FD-10FF 1C90-1CBA 1CBD-1CBF"]

def lower : CharSet := lowercase.difference (graphemeExtend.union georgian)

def upper : CharSet := (uppercase.union titlecaseLetter).difference georgian

def extended : CharSet := unionAll [graphemeExtend, spacingMark, zeroWidthJoiner]

def otherLetters : CharSet :=
  (alphabetic.difference (unionAll [lower, upper, extended])).union (single 0x5F3)

def numeric : CharSet := WordBreak.numeric.union (single 0x66C)

def formatting : CharSet := format.difference (extended.union numeric)

def separating : CharSet := .ofTable ["85 2028-2029"]

def spaces : CharSet :=
  whiteSpace.difference (unionAll [separating, lineFeed, carriageReturn])

def ambiguous : CharSet := .ofTable ["2E 2024 FE52 FF0E"]

def terminal : CharSet := sentenceTerminal.difference ambiguous

def continuing : CharSet :=
  .ofTable
    ["2C-2D 3A-3B 37E 55D 60C-60D 7F8 1802 1808 2013-2014 3001 FE10-FE11 FE13-FE14 FE31-FE32",
      "FE50-FE51 FE54-FE55 FE58 FE63 FF0C-FF0D FF1A-FF1B FF64"]

def otherClosing : CharSet := .ofTable ["275B-2760 2E00-2E01 2E06-2E08 2E0B 1F676-1F678"]

def closing : CharSet :=
  (unionAll [openPunctuation, closePunctuation, initialPunctuation, finalPunctuation,
    quotationMark, otherClosing]).difference (.ofTable ["FF02 FF07"])

def sets : List NamedSet :=
  [⟨["AT", "ATerm"], ambiguous⟩, ⟨["CL", "Close"], closing⟩, ⟨["CR"], carriageReturn⟩,
   ⟨["EX", "Extend"], extended⟩, ⟨["FO", "Format"], formatting⟩, ⟨["LE", "OLetter"], otherLetters⟩,
   ⟨["LF"], lineFeed⟩, ⟨["LO", "Lower"], lower⟩, ⟨["NU", "Numeric"], numeric⟩,
   ⟨["SC", "SContinue"], continuing⟩, ⟨["SE", "Sep"], separating⟩, ⟨["SP", "Sp"], spaces⟩,
   ⟨["ST", "STerm"], terminal⟩, ⟨["UP", "Upper"], upper⟩]

end SentenceBreak
end SubtitleExchange
