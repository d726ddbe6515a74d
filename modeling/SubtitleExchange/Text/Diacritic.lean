/-!
# Accented letters

Four marker bytes put an accent on the vowel that follows them. The forms of each accent are listed
in the order of the base letters.
-/

namespace SubtitleExchange

inductive Accent where
  | grave
  | acute
  | circumflex
  | diaeresis
deriving DecidableEq

namespace Accent

def all : List Accent :=
  [grave, acute, circumflex, diaeresis]

def marker : Accent → UInt8
  | grave => 0xC1
  | acute => 0xC2
  | circumflex => 0xC3
  | diaeresis => 0xC8

def ofMarker? (b : UInt8) : Option Accent :=
  all.find? fun accent => accent.marker == b

/-- The vowels that take an accent, as bytes. -/
def bases : List UInt8 :=
  "AEIOUaeiou".toList.map fun c => UInt8.ofNat c.toNat

def forms : Accent → List Char
  | grave => "ÀÈÌÒÙàèìòù".toList
  | acute => "ÁÉÍÓÚáéíóú".toList
  | circumflex => "ÂÊÎÔÛâêîôû".toList
  | diaeresis => "ÄËÏÖÜäëïöü".toList

def letter? (accent : Accent) (base : UInt8) : Option Char :=
  (bases.idxOf? base).bind fun i => accent.forms[i]?

end Accent

namespace Diacritic

/-- The range set aside for markers, of which only four put an accent on a letter. -/
def isMarker (b : UInt8) : Bool :=
  0xC1 ≤ b && b ≤ 0xCF

/-- The accented letter that a marker and the byte after it stand for, if they stand for one. -/
def combine (marker base : UInt8) : Option Char :=
  (Accent.ofMarker? marker).bind fun accent => accent.letter? base

end Diacritic
end SubtitleExchange
