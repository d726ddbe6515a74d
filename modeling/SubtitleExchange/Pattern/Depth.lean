import SubtitleExchange.Pattern.Node

/-!
# Depth

Sets, repetitions, groups, sequences and choices lie in each other only down to a limit, and so do
unions, operations and sets in a set. The part that is met first below the limit is at fault, where a
part is met before what it holds.
-/

namespace SubtitleExchange
namespace Pattern

mutual

/-- The first part that does not fit when this many levels are left. -/
def SetNode.beyond? (levels : Nat) : SetNode → Option Span
  | .nested span _ content =>
      match levels with
      | 0 => some span
      | levels + 1 => content.beyond? levels
  | .union span parts =>
      match levels with
      | 0 => some span
      | levels + 1 => SetNode.anyBeyond? levels parts
  | .operation span _ left right =>
      match levels with
      | 0 => some span
      | levels + 1 => (left.beyond? levels).or (right.beyond? levels)
  | _ => none

def SetNode.anyBeyond? (levels : Nat) : List SetNode → Option Span
  | [] => none
  | part :: rest => (part.beyond? levels).or (SetNode.anyBeyond? levels rest)

end

mutual

/-- The first part that does not fit when this many levels are left. -/
def Node.beyond? (levels : Nat) : Node → Option Span
  | .set span _ content =>
      match levels with
      | 0 => some span
      | levels + 1 => content.beyond? levels
  | .repetition span _ _ body =>
      match levels with
      | 0 => some span
      | levels + 1 => body.beyond? levels
  | .capture span body =>
      match levels with
      | 0 => some span
      | levels + 1 => body.beyond? levels
  | .group span _ body =>
      match levels with
      | 0 => some span
      | levels + 1 => body.beyond? levels
  | .sequence span parts =>
      match levels with
      | 0 => some span
      | levels + 1 => Node.anyBeyond? levels parts
  | .choice span parts =>
      match levels with
      | 0 => some span
      | levels + 1 => Node.anyBeyond? levels parts
  | _ => none

def Node.anyBeyond? (levels : Nat) : List Node → Option Span
  | [] => none
  | part :: rest => (part.beyond? levels).or (Node.anyBeyond? levels rest)

end

/-- Everything in the tree lies within the limit. -/
def Node.checkDepth (node : Node) : Checked Unit :=
  match node.beyond? nestLimit with
  | some span => .fail .nestedTooDeep span
  | none => .ok ()

end Pattern
end SubtitleExchange
