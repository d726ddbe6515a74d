import SubtitleExchange.Character.Set
import SubtitleExchange.Pattern.Node

/-!
# Forms

The form of a pattern is what it stands for, without spans and flags. A set is one of characters or
one of bytes, and a set that holds nothing never matches.
-/

namespace SubtitleExchange
namespace Pattern

/-- An assertion with the flags that matter to it. -/
inductive Look where
  | textStart
  | textEnd
  | lineStart (carriageReturn : Bool)
  | lineEnd (carriageReturn : Bool)
  | boundary (assertion : Assertion) (unicode : Bool)
deriving DecidableEq

inductive Form where
  | empty
  | text (chars : List Char)
  | chars (set : CharSet)
  | bytes (set : CharSet)
  | look (look : Look)
  | repetition (count : Count) ( isLazy : Bool) (body : Form)
  | capture (body : Form)
  | sequence (parts : List Form)
  | choice (parts : List Form)

namespace Form

def never : Form := .bytes .empty

def isText : Form → Bool
  | .text _ => true
  | _ => false

/-- The characters of a text. Nothing else has any. -/
def textChars : Form → List Char
  | .text cs => cs
  | _ => []

def set? : Form → Option CharSet
  | .chars set => some set
  | .bytes set => some set
  | _ => none

def parts? : Form → Option (List Form)
  | .sequence parts => some parts
  | _ => none

/-!
# Lengths

The least and the most bytes of a match. What never matches has no least, and there may be no most.
-/

def encodedSize (chars : List Char) : Nat :=
  chars.foldl (fun size c => size + c.utf8Size) 0

def addLengths : List (Option Nat) → Option Nat
  | [] => some 0
  | length :: rest => do return (← length) + (← addLengths rest)

mutual

def least? : Form → Option Nat
  | .empty => some 0
  | .text cs => some (encodedSize cs)
  | .chars set => set.ranges.head?.map fun range => (Char.ofNat range.first).utf8Size
  | .bytes set => if set.isEmpty then none else some 1
  | .look _ => some 0
  | .repetition count _ body => (least? body).map (count.least * ·)
  | .capture body => least? body
  | .sequence parts => addLengths (leastOfEach parts)
  | .choice parts => ((leastOfEach parts).mapM id).bind List.min?

def leastOfEach : List Form → List (Option Nat)
  | [] => []
  | part :: rest => least? part :: leastOfEach rest

end

mutual

def most? : Form → Option Nat
  | .empty => some 0
  | .text cs => some (encodedSize cs)
  | .chars set => set.ranges.getLast?.map fun range => (Char.ofNat range.last).utf8Size
  | .bytes set => if set.isEmpty then none else some 1
  | .look _ => some 0
  | .repetition count _ body => do return (← most? body) * (← count.most)
  | .capture body => most? body
  | .sequence parts => addLengths (mostOfEach parts)
  | .choice parts => ((mostOfEach parts).mapM id).bind List.max?

def mostOfEach : List Form → List (Option Nat)
  | [] => []
  | part :: rest => most? part :: mostOfEach rest

end

/-- Every match takes at least one byte, and there can be one. -/
def takesSome (form : Form) : Bool :=
  match form.least? with
  | some least => 0 < least
  | none => false

/-- No match takes any bytes, and there can be one. -/
def takesNone (form : Form) : Bool :=
  form.most? == some 0

/-!
# Forms that are alike

Two captures are never alike, as each has a number of its own.
-/

mutual

def isAlike : Form → Form → Bool
  | .empty, .empty => true
  | .text a, .text b => a == b
  | .chars a, .chars b => a == b
  | .bytes a, .bytes b => a == b
  | .look a, .look b => a == b
  | .repetition count isLazy body, .repetition count' isLazy' body' =>
      count == count' && isLazy == isLazy' && isAlike body body'
  | .sequence as, .sequence bs => areAlike as bs
  | .choice as, .choice bs => areAlike as bs
  | _, _ => false

def areAlike : List Form → List Form → Bool
  | [], [] => true
  | a :: as, b :: bs => isAlike a b && areAlike as bs
  | _, _ => false

end

/-- How many parts at the start of two sequences are alike. -/
def alikeCount : List Form → List Form → Nat
  | a :: as, b :: bs => if isAlike a b then alikeCount as bs + 1 else 0
  | _, _ => 0

/-!
# Extent
-/

mutual

/-- How many forms lie in a form, itself included. -/
def weight : Form → Nat
  | .repetition _ _ body => weight body + 1
  | .capture body => weight body + 1
  | .sequence parts => weightOfAll parts + 1
  | .choice parts => weightOfAll parts + 1
  | _ => 1

def weightOfAll : List Form → Nat
  | [] => 0
  | part :: rest => weight part + weightOfAll rest

end

end Form
end Pattern
end SubtitleExchange
