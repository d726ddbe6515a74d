import SubtitleExchange.Pattern.Form
import SubtitleExchange.Pattern.SetMachine
import SubtitleExchange.Pattern.WordTree

/-!
# Machines of forms

Each form has a machine that reads forward and one that reads backward. Captures are marked in the one
that reads forward alone.
-/

namespace SubtitleExchange
namespace Pattern
namespace Form

def textBytes (cs : List Char) : List UInt8 :=
  cs.flatMap String.utf8EncodeChar

def word ( isBackward : Bool) (form : Form) : List UInt8 :=
  let bytes := textBytes form.textChars
  if isBackward then bytes.reverse else bytes

def captured (part : Assembly Ending) : Assembly Ending := do
  let _ ← Assembly.states 1
  let ending ← part
  let _ ← Assembly.states 1
  Assembly.leave ending
  return .plain

def counted (count : Count) (takesSome : Bool) (part : Assembly Ending) : Assembly Ending :=
  match count with
  | ⟨0, some 1⟩ => .atMostOnce part
  | ⟨least, none⟩ => .atLeast takesSome part least
  | ⟨least, some most⟩ => if least = most then .times part least else .between part least most

mutual

def assemble ( isBackward : Bool) : Form → Assembly Ending
  | .empty => .states 1
  | .text cs => .states (encodedSize cs)
  | .chars set => SetMachine.assemble isBackward set
  | .bytes set => SetMachine.ofAscii set
  | .look _ => .states 1
  | .repetition count _ body => counted count body.takesSome (assemble isBackward body)
  | .capture body =>
      if isBackward then assemble isBackward body else captured (assemble isBackward body)
  | .sequence parts =>
      let assemblies := assembleEach isBackward parts
      .sequence (if isBackward then assemblies.reverse else assemblies)
  | .choice parts =>
      if parts.all isText then do
        let _ ← Assembly.put (WordTree.machine (parts.map (word isBackward)))
        return .plain
      else
        .choice (assembleEach isBackward parts)

def assembleEach ( isBackward : Bool) : List Form → List (Assembly Ending)
  | [] => []
  | part :: rest => assemble isBackward part :: assembleEach isBackward rest

end

/-!
# Anchors

A match that starts only where the text starts needs no search from elsewhere, nor does one that ends
only where the text ends.
-/

/-- Of parts that are anchored or take no bytes, an anchored one comes before the first part that takes bytes, or is that part. -/
def anchoredFirst : List (Bool × Bool) → Bool
  | [] => false
  | ( isAnchor, takesNone) :: rest => isAnchor || (takesNone && anchoredFirst rest)

mutual

/-- Every match has an assertion before it takes bytes, read forward or backward. -/
def isAnchored (anchor : Look) ( isBackward : Bool) : Form → Bool
  | .look found => found == anchor
  | .repetition count _ body => 0 < count.least && isAnchored anchor isBackward body
  | .capture body => isAnchored anchor isBackward body
  | .sequence parts =>
      let ends := anchorsOfEach anchor isBackward parts
      anchoredFirst (if isBackward then ends.reverse else ends)
  | .choice parts => (anchorsOfEach anchor isBackward parts).all Prod.fst
  | _ => false

/-- Whether each part is anchored, and whether it takes no bytes. -/
def anchorsOfEach (anchor : Look) ( isBackward : Bool) : List Form → List (Bool × Bool)
  | [] => []
  | part :: rest =>
      (isAnchored anchor isBackward part, part.takesNone) :: anchorsOfEach anchor isBackward rest

end

/-!
# Whole machines
-/

/-- The states of a search from anywhere, which go over one byte after the other. -/
def search ( isAnchoredForm : Bool) : Assembly Unit := do
  if isAnchoredForm then
    let _ ← Assembly.states 1
  else
    let _ ← Assembly.states 3
    Assembly.grow (transitionSize + 2 * branchSize)

def forwardMachine (form : Form) : Assembly Unit := do
  search (isAnchored .textStart false form)
  let _ ← captured (assemble false form)
  let _ ← Assembly.states 1

def backwardMachine (form : Form) : Assembly Unit := do
  search (isAnchored .textEnd true form)
  let ending ← assemble true form
  let _ ← Assembly.states 1
  Assembly.leave ending

/-- The machine that was assembled, if it fits. -/
def machine? (assembly : Assembly Unit) : Option Machine :=
  (assembly.run .empty).map Prod.snd

end Form
end Pattern
end SubtitleExchange
