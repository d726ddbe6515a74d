/-!
# Layout of a subtitle file

A file opens with a header of fixed length, which carries a signature, and goes on with blocks of
fixed length. The positions of a block's fields are counted in bytes from its start.
-/

namespace SubtitleExchange
namespace Layout

def headerLength : Nat := 1024

def signatureOffset : Nat := 3

/-- The letters `STL`. -/
def signature : List UInt8 := [0x53, 0x54, 0x4C]

/-- Whether the start of a file carries the signature. -/
def hasSignature (bytes : List UInt8) : Bool :=
  (bytes.drop signatureOffset).take signature.length == signature

abbrev blockLength : Nat := 128

abbrev textLength : Nat := 112

def timeInOffset : Nat := 5

def timeOutOffset : Nat := 9

def verticalOffset : Nat := 13

def justificationOffset : Nat := 14

def textOffset : Nat := 16

end Layout
end SubtitleExchange
