import SubtitleExchange.Pattern.Mode
import SubtitleExchange.Pattern.Property

/-!
# What sets hold

While Unicode is on, a shorthand stands for all characters of its kind; otherwise it stands for those
of ASCII. Other forms are added to a set before its complement is taken. What an inner set holds is
joined to what is around it, so ranges that touch are one range there.
-/

namespace SubtitleExchange
namespace Pattern

open CharSet (complementIf)

namespace NamedClass

def chars : NamedClass → CharSet
  | alnum => .ofTable ["30-39 41-5A 61-7A"]
  | alpha => .ofTable ["41-5A 61-7A"]
  | ascii => .ascii
  | blank => .ofTable ["9 20"]
  | cntrl => .ofTable ["0-1F 7F"]
  | digit => .ofTable ["30-39"]
  | graph => .ofTable ["21-7E"]
  | lower => .ofTable ["61-7A"]
  | print => .ofTable ["20-7E"]
  | punct => .ofTable ["21-2F 3A-40 5B-60 7B-7E"]
  | space => .ofTable ["9-D 20"]
  | upper => .ofTable ["41-5A"]
  | word => .ofTable ["30-39 41-5A 5F 61-7A"]
  | xdigit => .ofTable ["30-39 41-46 61-66"]

end NamedClass

namespace Shorthand

def kindChars (unicode : Bool) : ShorthandKind → CharSet
  | .digit => if unicode then .decimalNumber else NamedClass.digit.chars
  | .space => if unicode then .whiteSpace else NamedClass.space.chars
  | .word => if unicode then .word else NamedClass.word.chars

def chars (shorthand : Shorthand) (mode : Mode) : CharSet :=
  complementIf shorthand.negated (kindChars mode.unicode shorthand.kind)

end Shorthand

namespace PropertyEscape

/-- A property that does not exist holds nothing. -/
def chars (property : PropertyEscape) (mode : Mode) : CharSet :=
  match Property.resolve property.query with
  | .ok set => complementIf property.negated (mode.fold set)
  | .error _ => .empty

end PropertyEscape

def SetOperator.apply (left right : CharSet) : SetOperator → CharSet
  | .intersection => left.intersection right
  | .difference => left.difference right
  | .symmetricDifference => left.symmetricDifference right

mutual

def SetNode.chars (mode : Mode) : SetNode → CharSet
  | .empty _ => .empty
  | .literal part => .single part.char.toNat
  | .range _ first last => ⟨[⟨first.char.toNat, last.char.toNat⟩]⟩
  | .named _ negated name => complementIf negated (mode.fold name.chars)
  | .shorthand part => part.chars mode
  | .property part => part.chars mode
  | .nested _ negated content =>
      .unionAll [complementIf negated (mode.fold (content.chars mode))]
  | .union _ parts => .unionAll (SetNode.charsOfEach mode parts)
  | .operation _ operator left right =>
      .unionAll [operator.apply (mode.fold (left.chars mode)) (mode.fold (right.chars mode))]

def SetNode.charsOfEach (mode : Mode) : List SetNode → List CharSet
  | [] => []
  | part :: rest => part.chars mode :: SetNode.charsOfEach mode rest

end

end Pattern
end SubtitleExchange
