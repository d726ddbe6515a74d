import SubtitleExchange.Pattern.Property

/-!
# Validity

A pattern matches text, which is a sequence of Unicode characters. While the flag for Unicode is off,
classes hold bytes: they cannot be named by properties, and whatever matches a byte outside of ASCII
is refused. Parts are checked in the order in which they end.
-/

namespace SubtitleExchange
namespace Pattern

namespace Literal

/-- Two hexadecimal digits give a byte. -/
def check (literal : Literal) (unicode : Bool) : Checked Unit :=
  if !unicode && literal.ofTwoDigits && 0x80 ≤ literal.char.toNat then
    .fail .invalidEncoding literal.span
  else
    .ok ()

def checkInSet (literal : Literal) (unicode : Bool) : Checked Unit := do
  literal.check unicode
  if !unicode && 0x80 ≤ literal.char.toNat then
    .fail .unicodeNotAllowed literal.span

end Literal

/-- The complement of a set of ASCII bytes has bytes outside of ASCII. -/
def checkNegation (span : Span) (negated unicode : Bool) : Checked Unit :=
  if negated && !unicode then .fail .invalidEncoding span else .ok ()

namespace Shorthand

def check (shorthand : Shorthand) (unicode : Bool) : Checked Unit :=
  checkNegation shorthand.span shorthand.negated unicode

end Shorthand

namespace PropertyEscape

def check (property : PropertyEscape) (unicode : Bool) : Checked Unit :=
  if unicode then
    match Property.resolve property.query with
    | .ok _ => .ok ()
    | .error kind => .fail kind property.span
  else
    .fail .unicodeNotAllowed property.span

end PropertyEscape

namespace Atom

def check (unicode : Bool) : Atom → Checked Unit
  | .literal part => part.check unicode
  | .dot span => if unicode then .ok () else .fail .invalidEncoding span
  | .assertion _ _ => .ok ()
  | .shorthand part => part.check unicode
  | .property part => part.check unicode

end Atom

mutual

def SetNode.check (unicode : Bool) : SetNode → Checked Unit
  | .empty _ => .ok ()
  | .literal part => part.checkInSet unicode
  | .range _ first last => do
      first.checkInSet unicode
      last.checkInSet unicode
  | .named span negated _ => checkNegation span negated unicode
  | .shorthand part => part.check unicode
  | .property part => part.check unicode
  | .nested span negated content => do
      content.check unicode
      checkNegation span negated unicode
  | .union _ parts => SetNode.checkAll unicode parts
  | .operation _ _ left right => do
      left.check unicode
      right.check unicode

def SetNode.checkAll (unicode : Bool) : List SetNode → Checked Unit
  | [] => .ok ()
  | part :: rest => do
      part.check unicode
      SetNode.checkAll unicode rest

end

mutual

/-- Whether the flag for Unicode is on behind a node, if it was on before it or not. -/
def Node.check (unicode : Bool) : Node → Checked Bool
  | .empty _ => .ok unicode
  | .flags _ change => .ok (change.unicode.getD unicode)
  | .atom part => do
      part.check unicode
      return unicode
  | .set span negated content => do
      content.check unicode
      checkNegation span negated unicode
      return unicode
  | .repetition _ _ _ body => body.check unicode
  | .capture _ body => do
      let _ ← body.check unicode
      return unicode
  | .group _ change body => do
      let _ ← body.check (change.unicode.getD unicode)
      return unicode
  | .sequence _ parts => Node.checkAll unicode parts
  | .choice _ parts => Node.checkAll unicode parts

def Node.checkAll (unicode : Bool) : List Node → Checked Bool
  | [] => .ok unicode
  | part :: rest => do
      Node.checkAll (← part.check unicode) rest

end

def Node.checkValidity (node : Node) : Checked Unit := do
  let _ ← node.check true

end Pattern
end SubtitleExchange
