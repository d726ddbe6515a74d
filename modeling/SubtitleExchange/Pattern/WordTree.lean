import SubtitleExchange.Pattern.Machine

/-!
# Trees of words

A choice between words is a tree in which words with the same start share it. A node holds the rests
of words behind one start. Where a word ends between others, its end takes its place in their order,
so the words before it and behind it share nothing.
-/

namespace SubtitleExchange
namespace Pattern
namespace WordTree

abbrev Word := List UInt8

/-- The words of a node from the first one on, in the runs between ends of words. The current run
is held latest first. -/
def runsFrom (closed : List (List Word)) (current : List Word) : List Word → List (List Word)
  | [] => closed ++ [current.reverse]
  | [] :: rest =>
      if !closed.isEmpty && closed.all List.isEmpty && current.isEmpty then
        runsFrom closed current rest
      else
        runsFrom (closed ++ [current.reverse]) [] rest
  | word :: rest => runsFrom closed (word :: current) rest

/-- Ends at the start of a node count once. -/
def runs (node : List Word) : List (List Word) :=
  runsFrom [] [] node

/-- The nodes behind the bytes with which the words of a run start. -/
def nodesBehind (run : List Word) : List (List Word) :=
  (run.filterMap List.head?).eraseDups.map fun byte =>
    (run.filter fun word => word.head? == some byte).map List.tail

/-- One byte has a state of its own, and several are the transitions of one. -/
def runMachine (run : List Word) : Machine :=
  match (nodesBehind run).length with
  | 0 => .empty
  | 1 => ⟨1, 0⟩
  | count => ⟨1, transitionSize * count⟩

/-- A node has its runs and a branch to them and to the ends between them. -/
def nodeMachine (node : List Word) : Machine :=
  let all := runs node
  let ways := (all.filter fun run => !run.isEmpty).length + (all.length - 1)
  all.foldl (fun machine run => machine.join (runMachine run)) ⟨1, branchSize * ways⟩

/-- A node at which all words end is no state. -/
def isInner (node : List Word) : Bool :=
  node.any fun word => !word.isEmpty

/-- Adds the nodes of one level and of so many below it. -/
def addLevels : Nat → List (List Word) → Machine → Machine
  | 0, _, machine => machine
  | levels + 1, nodes, machine =>
      match nodes.filter isInner with
      | [] => machine
      | inner =>
          addLevels levels (inner.flatMap fun node => (runs node).flatMap nodesBehind)
            (inner.foldl (fun machine node => machine.join (nodeMachine node)) machine)

/-- The tree and the state where all words end. -/
def machine (words : List Word) : Machine :=
  let longest := words.foldl (fun length word => max length word.length) 0
  addLevels (longest + 1) [words] ⟨1, 0⟩

end WordTree
end Pattern
end SubtitleExchange
