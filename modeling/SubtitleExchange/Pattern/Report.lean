import SubtitleExchange.Pattern.Fault

/-!
# Reports of faults

A report shows the pattern with carets under the spans of the fault, and then the message. A pattern
of several lines is shown with line numbers between two rules, and a span over several lines is told
by its lines and columns.
-/

namespace SubtitleExchange
namespace Pattern
namespace Report

/-- The lines of a pattern. A return before a line feed belongs to neither line, and there is no line
behind the last line feed. -/
def linesOf (pattern : List Char) : List (List Char) :=
  let parts := pattern.splitOn '\n'
  let ended := parts.dropLast.map fun line =>
    if line.getLast? = some '\r' then line.dropLast else line
  match parts.getLast? with
  | some (c :: rest) => ended ++ [c :: rest]
  | _ => ended

def spansOf (fault : Fault) : List Span :=
  (fault.span :: fault.earlier.toList).mergeSort Span.precedes

/-- Carets under spans in one line, of which so many columns are behind. -/
def carets (behind : Nat) : List Span → List Char
  | [] => []
  | span :: rest =>
      let gap := span.start.column - 1 - behind
      let width := max 1 span.width
      List.replicate gap ' ' ++ List.replicate width '^' ++ carets (behind + gap + width) rest

/-- A line of the pattern behind its margin, and the line under it if there is one. -/
def noted (margin : List Char) (line : List Char) (spans : List Span) : List (List Char) :=
  let under := match spans with
    | [] => []
    | spans => [List.replicate margin.length ' ' ++ carets 0 spans]
  (margin ++ line) :: under

def margin (width number : Nat) : List Char :=
  (Nat.toDigits 10 number).leftpad width ' ' ++ [':', ' ']

/-- The digits of the number of the last line, counting one behind the last line feed. -/
def numberWidth (pattern : List Char) : Nat :=
  let count := (linesOf pattern).length + (if pattern.getLast? = some '\n' then 1 else 0)
  (Nat.toDigits 10 count).length

def rule : List Char := List.replicate 79 '~'

def acrossLines (span : Span) : List Char :=
  ("on line " ++ toString span.start.line ++ " (column " ++ toString span.start.column
    ++ ") through line " ++ toString span.stop.line ++ " (column "
    ++ toString (span.stop.column - 1) ++ ")").toList

def singleLine (pattern : List Char) (fault : Fault) : List (List Char) :=
  noted (List.replicate 4 ' ') pattern (spansOf fault)

def manyLines (pattern : List Char) (fault : Fault) : List (List Char) :=
  let spans := spansOf fault
  let width := numberWidth pattern
  let numbered := (linesOf pattern).mapIdx fun index line =>
    let inLine := spans.filter fun span => span.isOneLine && span.start.line == index + 1
    noted (margin width (index + 1)) line inLine
  let across := (spans.filter fun span => !span.isOneLine).map acrossLines
  rule :: numbered.flatten ++ rule :: across

def lines (pattern : List Char) (fault : Fault) : List (List Char) :=
  if pattern.contains '\n' then manyLines pattern fault else singleLine pattern fault

def text (pattern : List Char) (fault : Fault) : String :=
  let shown := "regex parse error:".toList :: lines pattern fault
  String.ofList (['\n'].intercalate (shown ++ [("error: " ++ fault.kind.message).toList]))

end Report
end Pattern
end SubtitleExchange
