import SubtitleExchange.Pattern.Chars
import SubtitleExchange.Pattern.Simplify

/-!
# What patterns stand for

The form of a node in a mode. A change of flags lasts until its group ends.
-/

namespace SubtitleExchange
namespace Pattern

namespace Mode

def setForm (mode : Mode) (set : CharSet) : Form :=
  if mode.unicode then .ofChars set else .ofBytes set

/-- All characters but those that end a line. -/
def dotChars (mode : Mode) : CharSet :=
  if mode.dotAll then .any
  else if mode.carriageReturn then (CharSet.ofTable ["A D"]).complement
  else (CharSet.single 0xA).complement

end Mode

namespace Assertion

def look (mode : Mode) : Assertion → Look
  | lineStart => if mode.multiLine then .lineStart mode.carriageReturn else .textStart
  | lineEnd => if mode.multiLine then .lineEnd mode.carriageReturn else .textEnd
  | textStart => .textStart
  | textEnd => .textEnd
  | assertion => .boundary assertion mode.unicode

end Assertion

namespace Atom

def form (mode : Mode) : Atom → Form
  | .literal part => mode.setForm (mode.fold (.single part.char.toNat))
  | .dot _ => .ofChars mode.dotChars
  | .assertion _ kind => .look (kind.look mode)
  | .shorthand part => mode.setForm (part.chars mode)
  | .property part => .ofChars (part.chars mode)

end Atom

mutual

/-- The form of a node, and the mode behind it. -/
def Node.form (mode : Mode) : Node → Form × Mode
  | .empty _ => (.empty, mode)
  | .flags _ change => (.empty, mode.change change)
  | .atom part => (part.form mode, mode)
  | .set _ negated content =>
      (mode.setForm (.complementIf negated (mode.fold (content.chars mode))), mode)
  | .repetition _ count isLazy body =>
      let (form, behind) := body.form mode
      (.repeated count (isLazy != behind.swapGreed) form, behind)
  | .capture _ body => (.capture (body.form mode).1, mode)
  | .group _ change body => ((body.form (mode.change change)).1, mode)
  | .sequence _ parts =>
      let (forms, behind) := Node.forms mode parts
      (.inSequence forms, behind)
  | .choice _ parts =>
      let (forms, behind) := Node.forms mode parts
      (.inChoice forms, behind)

def Node.forms (mode : Mode) : List Node → List Form × Mode
  | [] => ([], mode)
  | part :: rest =>
      let (form, behind) := part.form mode
      let (others, last) := Node.forms behind rest
      (form :: others, last)

end

/-- The form of a whole pattern. -/
def Node.meaning (node : Node) : Form :=
  (node.form .start).1

end Pattern
end SubtitleExchange
