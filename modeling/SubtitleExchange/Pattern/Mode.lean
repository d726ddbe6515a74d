import SubtitleExchange.Character.Folding
import SubtitleExchange.Pattern.Node

/-!
# Modes

The flags that are on at a place of a pattern. They decide what its parts stand for.
-/

namespace SubtitleExchange
namespace Pattern

structure Mode where
  unicode : Bool
  ignoreCase : Bool
  multiLine : Bool
  dotAll : Bool
  swapGreed : Bool
  carriageReturn : Bool
deriving DecidableEq

namespace Mode

/-- At the start of a pattern, where Unicode alone is on. -/
def start : Mode := ⟨true, false, false, false, false, false⟩

def change (mode : Mode) (flags : Flags) : Mode where
  unicode := flags.unicode.getD mode.unicode
  ignoreCase := flags.ignoreCase.getD mode.ignoreCase
  multiLine := flags.multiLine.getD mode.multiLine
  dotAll := flags.dotAll.getD mode.dotAll
  swapGreed := flags.swapGreed.getD mode.swapGreed
  carriageReturn := flags.carriageReturn.getD mode.carriageReturn

/-- Where case does not count, a set holds all forms of its characters. -/
def fold (mode : Mode) (set : CharSet) : CharSet :=
  if mode.ignoreCase then
    if mode.unicode then set.foldCase else set.foldAsciiCase
  else
    set

end Mode
end Pattern
end SubtitleExchange
