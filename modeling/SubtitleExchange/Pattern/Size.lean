import SubtitleExchange.Pattern.Meaning
import SubtitleExchange.Pattern.Needles

/-!
# Sizes of patterns

A pattern is searched for by two machines, one that reads forward and one that reads backward, and
neither may be larger than the limit. A pattern that is a list of needles has no machine.
-/

namespace SubtitleExchange
namespace Pattern

namespace Form

def fits (form : Form) : Bool :=
  (machine? form.forwardMachine).isSome && (machine? form.backwardMachine).isSome

end Form

def Node.isTooLarge (node : Node) : Bool :=
  let form := node.meaning
  !form.fits && !form.isListed

end Pattern
end SubtitleExchange
