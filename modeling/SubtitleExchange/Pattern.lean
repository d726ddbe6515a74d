import SubtitleExchange.Pattern.Depth
import SubtitleExchange.Pattern.Reading
import SubtitleExchange.Pattern.Report
import SubtitleExchange.Pattern.Size
import SubtitleExchange.Pattern.Validity

/-!
# Patterns

A pattern is a regular expression. It is refused for its first fault, or because its machines would
be too large; otherwise it can be used.
-/

namespace SubtitleExchange
namespace Pattern

inductive Refusal where
  | fault (fault : Fault)
  | tooLarge
deriving DecidableEq

namespace Refusal

def message (pattern : List Char) : Refusal → String
  | .fault first => Report.text pattern first
  | .tooLarge => "Compiled regex exceeds size limit of " ++ toString sizeLimit ++ " bytes."

end Refusal

/-- The tree of a pattern that has no fault. Depth is looked at once the whole pattern was read, and
what it means after that. -/
def check (pattern : List Char) : Checked Node := do
  let node ← Node.ofPattern pattern
  node.checkDepth
  node.checkValidity
  return node

def refusal? (pattern : List Char) : Option Refusal :=
  match check pattern with
  | .error fault => some (.fault fault)
  | .ok node => if node.isTooLarge then some .tooLarge else none

end Pattern
end SubtitleExchange
