import SubtitleExchange.Pattern.Place

/-!
# Faults of patterns

A fault has a kind and a span of the pattern. Where it repeats something that may stand only once, it
has the span of the first occurrence as well.
-/

namespace SubtitleExchange
namespace Pattern

/-- How deep groups, sets, repetitions, sequences and alternatives may lie in each other. -/
def nestLimit : Nat := 250

inductive FaultKind where
  | setUnclosed
  | setEscapeInvalid
  | rangeBoundaryInvalid
  | rangeReversed
  | decimalInvalid
  | hexEmpty
  | hexDigitInvalid
  | hexNotScalar
  | escapeAtEnd
  | escapeUnknown
  | flagUnknown
  | flagRepeated
  | flagAtEnd
  | negationRepeated
  | negationDangling
  | groupUnclosed
  | groupUnopened
  | groupNameEmpty
  | groupNameInvalid
  | groupNameUnclosed
  | groupNameRepeated
  | nestedTooDeep
  | repetitionOfNothing
  | countReversed
  | countEmpty
  | countUnclosed
  | wordBoundaryUnclosed
  | wordBoundaryUnknown
  | wordBoundaryAtEnd
  | propertyEscapeInvalid
  | backreference
  | lookAround
  | unicodeNotAllowed
  | invalidEncoding
  | propertyUnknown
  | propertyValueUnknown
deriving DecidableEq

namespace FaultKind

def message : FaultKind → String
  | setUnclosed => "unclosed character class"
  | setEscapeInvalid => "invalid escape sequence found in character class"
  | rangeBoundaryInvalid => "invalid range boundary, must be a literal"
  | rangeReversed => "invalid character class range, the start must be <= the end"
  | decimalInvalid => "decimal literal invalid"
  | hexEmpty => "hexadecimal literal empty"
  | hexDigitInvalid => "invalid hexadecimal digit"
  | hexNotScalar => "hexadecimal literal is not a Unicode scalar value"
  | escapeAtEnd => "incomplete escape sequence, reached end of pattern prematurely"
  | escapeUnknown => "unrecognized escape sequence"
  | flagUnknown => "unrecognized flag"
  | flagRepeated => "duplicate flag"
  | flagAtEnd => "expected flag but got end of regex"
  | negationRepeated => "flag negation operator repeated"
  | negationDangling => "dangling flag negation operator"
  | groupUnclosed => "unclosed group"
  | groupUnopened => "unopened group"
  | groupNameEmpty => "empty capture group name"
  | groupNameInvalid => "invalid capture group character"
  | groupNameUnclosed => "unclosed capture group name"
  | groupNameRepeated => "duplicate capture group name"
  | nestedTooDeep =>
      "exceed the maximum number of nested parentheses/brackets (" ++ toString nestLimit ++ ")"
  | repetitionOfNothing => "repetition operator missing expression"
  | countReversed => "invalid repetition count range, the start must be <= the end"
  | countEmpty => "repetition quantifier expects a valid decimal"
  | countUnclosed => "unclosed counted repetition"
  | wordBoundaryUnclosed =>
      "special word boundary assertion is either unclosed or contains an invalid character"
  | wordBoundaryUnknown =>
      "unrecognized special word boundary assertion, valid choices are: "
        ++ "start, end, start-half or end-half"
  | wordBoundaryAtEnd =>
      "found either the beginning of a special word boundary or a bounded repetition on a \\b "
        ++ "with an opening brace, but no closing brace"
  | propertyEscapeInvalid => "invalid Unicode character class"
  | backreference => "backreferences are not supported"
  | lookAround => "look-around, including look-ahead and look-behind, is not supported"
  | unicodeNotAllowed => "Unicode not allowed here"
  | invalidEncoding => "pattern can match invalid UTF-8"
  | propertyUnknown => "Unicode property not found"
  | propertyValueUnknown => "Unicode property value not found"

end FaultKind

structure Fault where
  kind : FaultKind
  span : Span
  earlier : Option Span
deriving DecidableEq

/-- What reads a part of a pattern gives a value or the first fault. -/
abbrev Checked (α : Type) := Except Fault α

namespace Checked

def fail {α : Type} (kind : FaultKind) (span : Span) : Checked α :=
  .error ⟨kind, span, none⟩

/-- The fault of saying again what was said in an earlier span. -/
def failAgain {α : Type} (kind : FaultKind) (span earlier : Span) : Checked α :=
  .error ⟨kind, span, some earlier⟩

end Checked
end Pattern
end SubtitleExchange
