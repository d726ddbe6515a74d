import SubtitleExchange.Text.Diacritic

/-!
# The character repertoire

A printable byte is the character of the same code point, unless it is a marker that combines with
the next byte. A marker that does not combine stands for itself and leaves the next byte alone.
-/

namespace SubtitleExchange
namespace Repertoire

def character (b : UInt8) : Char :=
  Char.ofNat b.toNat

def decode : List UInt8 → List Char
  | [] => []
  | [b] => [character b]
  | a :: b :: rest =>
      match Diacritic.combine a b with
      | some c => c :: decode rest
      | none => character a :: decode (b :: rest)

def text (bytes : List UInt8) : String :=
  String.ofList (decode bytes)

theorem toList_text (bytes : List UInt8) : (text bytes).toList = decode bytes :=
  String.toList_ofList

theorem decode_pair {a b : UInt8} {c : Char} (h : Diacritic.combine a b = some c)
    (rest : List UInt8) : decode (a :: b :: rest) = c :: decode rest := by
  rw [decode, h]

theorem decode_single {a b : UInt8} (h : Diacritic.combine a b = none) (rest : List UInt8) :
    decode (a :: b :: rest) = character a :: decode (b :: rest) := by
  rw [decode, h]

end Repertoire
end SubtitleExchange
