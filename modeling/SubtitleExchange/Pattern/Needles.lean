import SubtitleExchange.Pattern.Assembly

/-!
# Needles

What all matches start with, as a list of byte strings in the order of preference. A needle is exact if
it is a whole match, and there may be too many needles to list. A pattern that is a list of exact
needles is searched for without a machine.
-/

namespace SubtitleExchange
namespace Pattern

structure Needle where
  bytes : List UInt8
  isExact : Bool
deriving DecidableEq

/-- Without a list, the needles are too many. -/
abbrev Needles := Option (List Needle)

namespace Needle

def nothing : Needle := ⟨[], true⟩

def inexact (needle : Needle) : Needle :=
  { needle with isExact := false }

def shorten (length : Nat) (needle : Needle) : Needle :=
  if length < needle.bytes.length then ⟨needle.bytes.take length, false⟩ else needle

/-- What follows an exact needle makes it longer. -/
def extend (needle next : Needle) : Needle :=
  ⟨needle.bytes ++ next.bytes, next.isExact⟩

end Needle

namespace Needles

/-!
# Lists of needles
-/

def joinRepeatsFrom (latest : Needle) : List Needle → List Needle
  | [] => [latest]
  | needle :: rest =>
      if needle.bytes = latest.bytes then
        joinRepeatsFrom ⟨latest.bytes, latest.isExact && needle.isExact⟩ rest
      else
        latest :: joinRepeatsFrom needle rest

/-- Equal needles side by side become one, which is exact if all of them are. -/
def joinRepeats : List Needle → List Needle
  | [] => []
  | needle :: rest => joinRepeatsFrom needle rest

/-- A needle that starts with an earlier one is never preferred. -/
def dropLonger (needles : List Needle) : List Needle :=
  (needles.foldl (fun kept needle =>
    if kept.any fun other => other.bytes.isPrefixOf needle.bytes then kept else needle :: kept)
    []).reverse

def areExact (needles : List Needle) : Bool :=
  needles.all Needle.isExact

/-- Nothing can be added behind any needle. -/
def isFinal : Needles → Bool
  | some needles => needles.all fun needle => !needle.isExact
  | none => true

def hasNothing (needles : List Needle) : Bool :=
  needles.any fun needle => needle.bytes.isEmpty

def inexact (needles : Needles) : Needles :=
  needles.map fun list => list.map Needle.inexact

/-!
# Putting needles together
-/

def mostNeedles : Nat := 250

def longestNeedle : Nat := 100

def longestOfMany : Nat := 4

/-- Needles that anything may follow. -/
def beforeAnything (needles : List Needle) : Needles :=
  if hasNothing needles then none else some (needles.map Needle.inexact)

/-- Behind each exact needle one of the next ones follows. -/
def cross (needles next : Needles) : Needles :=
  match needles, next with
  | none, _ => none
  | some first, none => beforeAnything first
  | some first, some second =>
      if mostNeedles < first.length * second.length then
        beforeAnything first
      else
        let crossed := first.flatMap fun needle =>
          if needle.isExact then second.map needle.extend else [needle]
        some ((joinRepeats crossed).map (Needle.shorten longestNeedle))

def crossEach (needles : Needles) : List Needles → Needles
  | [] => needles
  | next :: rest => if isFinal needles then needles else crossEach (cross needles next) rest

def crossTimes (needles next : Needles) : Nat → Needles
  | 0 => needles
  | count + 1 => if isFinal needles then needles else crossTimes (cross needles next) next count

def union (needles others : Needles) : Needles :=
  match needles, others with
  | some first, some second =>
      if mostNeedles < first.length + second.length then
        let first := joinRepeats (first.map (Needle.shorten longestOfMany))
        let second := joinRepeats (second.map (Needle.shorten longestOfMany))
        if mostNeedles < first.length + second.length then none
        else some (joinRepeats (first ++ second))
      else
        some (joinRepeats (first ++ second))
  | _, _ => none

/-!
# Needles of forms
-/

/-- The most characters of a set whose needles are listed. -/
def largestSet : Nat := 10

/-- The most times that a repeated part is followed. -/
def mostTimes : Nat := 10

def ofSet (set : CharSet) : Needles :=
  if largestSet < set.size then none
  else
    some (set.ranges.flatMap fun range =>
      (List.range range.size).map fun n => ⟨CharRange.bytes (range.first + n), true⟩)

def nothing : Needles := some [.nothing]

/-- A part that may be left out is preferred to nothing unless it is lazy. -/
def optional ( isOnce isLazy : Bool) (part : Needles) : Needles :=
  let part := if isOnce then part else inexact part
  if isLazy then union nothing part else union part nothing

def repeated (count : Count) ( isLazy : Bool) (part : Needles) : Needles :=
  if count.least = 0 then
    optional (count.most == some 1) isLazy part
  else
    let several := crossTimes nothing part (min count.least mostTimes)
    if count.most = some count.least ∧ count.least ≤ mostTimes then several else inexact several

mutual

def ofForm : Form → Needles
  | .empty => nothing
  | .text cs => some [Needle.shorten longestNeedle ⟨Form.textBytes cs, true⟩]
  | .chars set => ofSet set
  | .bytes set => ofSet set
  | .look _ => nothing
  | .repetition count isLazy body => repeated count isLazy (ofForm body)
  | .capture body => ofForm body
  | .sequence parts => crossEach nothing (ofEach parts)
  | .choice parts => (ofEach parts).foldl union (some [])

def ofEach : List Form → List Needles
  | [] => []
  | part :: rest => ofForm part :: ofEach rest

end

/-!
# Choosing needles

Fewer or shorter needles may be found faster, even if they are no longer exact.
-/

def sharedStart (bytes : List UInt8) : List Needle → List UInt8
  | [] => bytes
  | needle :: rest =>
      let pairs := (bytes.zip needle.bytes).takeWhile fun pair => pair.1 == pair.2
      sharedStart (pairs.map Prod.fst) rest

/-- What all needles of a list start with. -/
def commonStart : List Needle → List UInt8
  | [] => []
  | needle :: rest => sharedStart needle.bytes rest

/-- Bytes that most texts are full of: blanks, common punctuation and letters, some digits, and first
bytes of characters beyond ASCII. -/
def isCommon (byte : UInt8) : Bool :=
  0xC0 ≤ byte || ("\n\r (),-./0129:_|abcdefghilmnoprstuvxy".toList.any fun c => c.toNat = byte.toNat)

/-- Lengths to shorten needles to, as long as there are more needles than the number beside. -/
def attempts : List (Nat × Nat) :=
  [(5, 10), (4, 10), (3, 64), (2, 64), (1, 10)]

def shortenMany (needles : List Needle) : List (Nat × Nat) → List Needle
  | [] => needles
  | (length, enough) :: rest =>
      if needles.length ≤ enough then needles
      else shortenMany (dropLonger (needles.map (Needle.shorten length))) rest

/-- The shortened needles, unless some became too short or there are still too many. -/
def shortened (needles : List Needle) : List Needle :=
  let short := shortenMany needles attempts
  if (short.any fun needle => needle.bytes.length ≤ 2) || 64 < short.length then needles else short

def choose (needles : List Needle) : List Needle :=
  let preferred := dropLonger needles
  let start := commonStart preferred
  let hasRareStart := match start with
    | [] => false
    | byte :: others => others.length < 3 && !isCommon byte
  if 1 < needles.length && hasRareStart then
    joinRepeats (preferred.map (Needle.shorten 1))
  else
    let isFast := areExact preferred && preferred.length ≤ 16
    if 4 < start.length || (1 < start.length && !isFast) then
      shortened (joinRepeats (preferred.map (Needle.shorten start.length)))
    else
      shortened preferred

end Needles

namespace Form

mutual

/-- Whether a form has a capture or an assertion in it. -/
def hasMarks : Form → Bool
  | .look _ => true
  | .capture _ => true
  | .repetition _ _ body => hasMarks body
  | .sequence parts => anyHasMarks parts
  | .choice parts => anyHasMarks parts
  | _ => false

def anyHasMarks : List Form → Bool
  | [] => false
  | part :: rest => hasMarks part || anyHasMarks rest

end

/-- A form whose matches are a few byte strings, none of them empty. -/
def isListed (form : Form) : Bool :=
  match Needles.ofForm form with
  | none => false
  | some needles =>
      !hasMarks form && !needles.isEmpty && !Needles.hasNothing needles
        && Needles.areExact (Needles.choose needles)

end Form
end Pattern
end SubtitleExchange
