import SubtitleExchange.Pattern.Fault

/-!
# Syntax trees of patterns

The tree of a pattern is what was written, with the span of each part.
-/

namespace SubtitleExchange
namespace Pattern

/-- A literal character, which two hexadecimal digits can stand for. -/
structure Literal where
  span : Span
  char : Char
  ofTwoDigits : Bool
deriving DecidableEq

inductive ShorthandKind where
  | digit
  | space
  | word
deriving DecidableEq

/-- The classes that have a letter of their own. -/
structure Shorthand where
  span : Span
  kind : ShorthandKind
  negated : Bool
deriving DecidableEq

/-- A property by its name alone, or a property that has a value. -/
structure PropertyQuery where
  name : String
  value : Option String
deriving DecidableEq

structure PropertyEscape where
  span : Span
  negated : Bool
  query : PropertyQuery
deriving DecidableEq

/-- What a place between two characters has to be. Halves of a boundary look to one side only. -/
inductive Assertion where
  | lineStart
  | lineEnd
  | textStart
  | textEnd
  | wordBoundary
  | noWordBoundary
  | wordStart
  | wordEnd
  | wordStartHalf
  | wordEndHalf
deriving DecidableEq

/-- What stands for one character, or for a place between two. -/
inductive Atom where
  | literal (literal : Literal)
  | dot (span : Span)
  | assertion (span : Span) (assertion : Assertion)
  | shorthand (shorthand : Shorthand)
  | property (property : PropertyEscape)
deriving DecidableEq

namespace Atom

def span : Atom → Span
  | .literal part => part.span
  | .dot span => span
  | .assertion span _ => span
  | .shorthand part => part.span
  | .property part => part.span

end Atom

/-!
# Sets of characters

The classes of ASCII characters that have a name inside of brackets are listed with what is in them.
-/

inductive NamedClass where
  | alnum
  | alpha
  | ascii
  | blank
  | cntrl
  | digit
  | graph
  | lower
  | print
  | punct
  | space
  | upper
  | word
  | xdigit
deriving DecidableEq

namespace NamedClass

def names : List (String × NamedClass) :=
  [("alnum", alnum), ("alpha", alpha), ("ascii", ascii), ("blank", blank), ("cntrl", cntrl),
    ("digit", digit), ("graph", graph), ("lower", lower), ("print", print), ("punct", punct),
    ("space", space), ("upper", upper), ("word", word), ("xdigit", xdigit)]

def ofName? (name : String) : Option NamedClass :=
  names.lookup name

end NamedClass

inductive SetOperator where
  | intersection
  | difference
  | symmetricDifference
deriving DecidableEq

/-- What stands between the brackets of a set. -/
inductive SetNode where
  | empty (span : Span)
  | literal (literal : Literal)
  | range (span : Span) (first last : Literal)
  | named (span : Span) (negated : Bool) (name : NamedClass)
  | shorthand (shorthand : Shorthand)
  | property (property : PropertyEscape)
  | nested (span : Span) (negated : Bool) (content : SetNode)
  | union (span : Span) (parts : List SetNode)
  | operation (span : Span) (operator : SetOperator) (left right : SetNode)

namespace SetNode

def span : SetNode → Span
  | .empty span => span
  | .literal part => part.span
  | .range span _ _ => span
  | .named span _ _ => span
  | .shorthand part => part.span
  | .property part => part.span
  | .nested span _ _ => span
  | .union span _ => span
  | .operation span _ _ _ => span

end SetNode

/-!
# Flags

A flag that is not set here is on, off, or left as it is around a group.
-/

structure Flags where
  unicode : Option Bool
  ignoreCase : Option Bool
  multiLine : Option Bool
  dotAll : Option Bool
  swapGreed : Option Bool
  carriageReturn : Option Bool
  freeSpacing : Option Bool
deriving DecidableEq

namespace Flags

def none : Flags := ⟨.none, .none, .none, .none, .none, .none, .none⟩

end Flags

/-- How often something is repeated; without a most, there is no limit. -/
structure Count where
  least : Nat
  most : Option Nat
deriving DecidableEq

inductive Node where
  | empty (span : Span)
  | flags (span : Span) (flags : Flags)
  | atom (atom : Atom)
  | set (span : Span) (negated : Bool) (content : SetNode)
  | repetition (span : Span) (count : Count) ( isLazy : Bool) (body : Node)
  | capture (span : Span) (body : Node)
  | group (span : Span) (flags : Flags) (body : Node)
  | sequence (span : Span) (parts : List Node)
  | choice (span : Span) (parts : List Node)

namespace Node

def span : Node → Span
  | .empty span => span
  | .flags span _ => span
  | .atom part => part.span
  | .set span _ _ => span
  | .repetition span _ _ _ => span
  | .capture span _ => span
  | .group span _ _ => span
  | .sequence span _ => span
  | .choice span _ => span

/-- Nothing and a change of flags cannot be repeated. -/
def isRepeatable : Node → Bool
  | .empty _ => false
  | .flags _ _ => false
  | _ => true

def ofParts (span : Span) : List Node → Node
  | [] => empty span
  | [part] => part
  | parts => sequence span parts

end Node

namespace SetNode

def ofParts (span : Span) : List SetNode → SetNode
  | [] => empty span
  | [part] => part
  | parts => union span parts

end SetNode
end Pattern
end SubtitleExchange
